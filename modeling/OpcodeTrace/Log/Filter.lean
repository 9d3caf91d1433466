import OpcodeTrace.Log.Directive

/-! Of the directives that hold for an entry, the one with the longest source decides, and of
those with the same source one that names a field. An entry for which none holds is not shown. -/

namespace OpcodeTrace.Log

structure Filter where
  directives : List Directive
deriving DecidableEq, Repr

def Level.isWithin (level : Level) : (limit : Option Level) → Bool
  | none => false
  | some limit => level.rank ≤ limit.rank

namespace Filter

/-- A directive says less than another one about which entries it holds for. -/
def isWider (directive other : Directive) : Bool :=
  directive.source.utf8ByteSize < other.source.utf8ByteSize
    || (directive.source.utf8ByteSize = other.source.utf8ByteSize && directive.field.isNone
      && other.field.isSome)

def narrower (former : Option Directive) (directive : Directive) : Option Directive :=
  match former with
  | none => some directive
  | some other => if isWider directive other then some other else some directive

def deciding? (filter : Filter) (entry : Entry) : Option Directive :=
  (filter.directives.filter (·.holds entry)).foldl narrower none

def shows (filter : Filter) (entry : Entry) : Bool :=
  match filter.deciding? entry with
  | none => false
  | some directive => entry.level.isWithin directive.level

def upTo (level : Level) : Filter where
  directives := [{ source := "", span := none, field := none, level := some level }]

def read? (setting : String) : Option Filter := do
  let directives ← ((setting.splitOn ",").filter (· ≠ "")).mapM Directive.read?
  return if directives = [] then upTo .error else { directives }

/-- The filter of a setting. If there is none or it can't be read, warnings are shown. -/
def ofSetting (setting : Option String) : Filter :=
  (setting.bind read?).getD (upTo .warn)

end Filter

end OpcodeTrace.Log
