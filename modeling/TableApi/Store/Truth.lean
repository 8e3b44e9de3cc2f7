namespace TableApi.Store

abbrev Truth := Option Bool

namespace Truth

def unknown : Truth := none

protected def and : Truth → Truth → Truth
  | some false, _ => some false
  | _, some false => some false
  | some true, some true => some true
  | _, _ => none

protected def or : Truth → Truth → Truth
  | some true, _ => some true
  | _, some true => some true
  | some false, some false => some false
  | _, _ => none

protected def not : Truth → Truth
  | some b => some !b
  | none => none

end Truth

end TableApi.Store
