namespace TableApi.Store

inductive DatabaseError
  | noSuchTable (table : String)
  | noColumnNamed (table column : String)
  | noSuchColumn (column : String)
  | tableExists (table : String)
  | syntaxNear (token : String)
  | incompleteInput
  | duplicateColumn (column : String)
  | misplacedAutoincrement
  | foreignKey
  | notNull (table column : String)
  | primaryKey (table column : String)
  | rowId (table : String)
  | unique (table column : String)
  | typeMismatch
  | full
  | cannotOpen
  | notADatabase
deriving DecidableEq, Repr

namespace DatabaseError

def code : DatabaseError → Nat
  | noSuchTable _ | noColumnNamed .. | noSuchColumn _ | tableExists _ | syntaxNear _
  | incompleteInput | duplicateColumn _ | misplacedAutoincrement => 1
  | full => 13
  | cannotOpen => 14
  | typeMismatch => 20
  | notADatabase => 26
  | foreignKey => 787
  | notNull .. => 1299
  | primaryKey .. => 1555
  | unique .. => 2067
  | rowId _ => 2579

def text : DatabaseError → String
  | noSuchTable table => "no such table: " ++ table
  | noColumnNamed table column => "table " ++ table ++ " has no column named " ++ column
  | noSuchColumn column => "no such column: " ++ column
  | tableExists table => "table " ++ table ++ " already exists"
  | syntaxNear token => "near \"" ++ token ++ "\": syntax error"
  | incompleteInput => "incomplete input"
  | duplicateColumn column => "duplicate column name: " ++ column
  | misplacedAutoincrement => "AUTOINCREMENT is only allowed on an INTEGER PRIMARY KEY"
  | foreignKey => "FOREIGN KEY constraint failed"
  | notNull table column => "NOT NULL constraint failed: " ++ table ++ "." ++ column
  | primaryKey table column => "UNIQUE constraint failed: " ++ table ++ "." ++ column
  | unique table column => "UNIQUE constraint failed: " ++ table ++ "." ++ column
  | rowId table => "UNIQUE constraint failed: " ++ table ++ ".rowid"
  | typeMismatch => "datatype mismatch"
  | full => "database or disk is full"
  | cannotOpen => "unable to open database file"
  | notADatabase => "file is not a database"

def message (e : DatabaseError) : String :=
  "error returned from database: (code: " ++ toString e.code ++ ") " ++ e.text

end DatabaseError

inductive StoreError
  | database (e : DatabaseError)
  | closed
  | schemaFailed (path error : String)
  | io (error : String)
deriving DecidableEq, Repr

def closedText : String := "attempted to acquire a connection on a closed pool"

namespace StoreError

def cause : StoreError → String
  | database e => e.message
  | closed => closedText
  | schemaFailed _ error => error
  | io error => error

def message : StoreError → String
  | database e => "SQLite error: " ++ e.message
  | closed => "SQLite error: " ++ closedText
  | schemaFailed path error => "Schema " ++ path ++ " failed: " ++ error
  | io error => "IO error: " ++ error

end StoreError

end TableApi.Store
