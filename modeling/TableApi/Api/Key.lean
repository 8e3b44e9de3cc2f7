namespace TableApi.Api

def maxKeyLength : Nat := 256

def isKey (s : String) : Bool := s != "" && s.utf8ByteSize ≤ maxKeyLength

end TableApi.Api
