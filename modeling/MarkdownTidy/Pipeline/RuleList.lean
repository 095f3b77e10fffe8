import MarkdownTidy.Bytes

/-! Named lists of grammar rules. A list is kept in ascending order of priority, which is the order the
rules are tried in. -/

namespace MarkdownTidy

structure RuleEntry where
  name : Bytes
  priority : Int
  triggers : Bytes := []
  deriving DecidableEq, Repr

/-- Why a rule could not be added. -/
inductive RuleError where
  | duplicate (name : Bytes)
  | unknown (name : Bytes)
  /-- There is no priority left between two neighbours. -/
  | noPriority (low high : Int) (name : Bytes)
  deriving DecidableEq, Repr

def RuleError.message : RuleError → Bytes
  | duplicate name => utf8 "duplicate rule: " ++ name
  | unknown name => utf8 "unknown rule: " ++ name
  | noPriority low high name =>
    utf8 "no free priority: between " ++ decimalInt low ++ utf8 " and " ++ decimalInt high ++
      utf8 " for " ++ name

abbrev RuleList := List RuleEntry

namespace RuleList

def spacing : Int := 100

def names (l : RuleList) : List Bytes := l.map (·.name)

def contains (l : RuleList) (name : Bytes) : Bool := l.names.contains name

def earliest (l : RuleList) (triggers before : Bytes) : Bytes :=
  if l.contains before then
    match (l.takeWhile (·.name != before)).find? (fun r => triggers.any r.triggers.contains) with
    | some r => r.name
    | none => before
  else before

def lastPriority (l : RuleList) : Int :=
  match l.getLast? with
  | none => spacing
  | some r => r.priority + spacing

def insertBefore (name before triggers : Bytes) (low : Option Int) :
    RuleList → Except RuleError (RuleList × Int)
  | [] => .error (.unknown before)
  | r :: rs =>
    if r.name == before then
      let high := r.priority
      let low := low.getD (high - spacing)
      let priority := low + Int.tdiv (high - low) 2
      if priority ≤ low || priority ≥ high then .error (.noPriority low high name)
      else .ok (⟨name, priority, triggers⟩ :: r :: rs, priority)
    else
      match insertBefore name before triggers (some r.priority) rs with
      | .error e => .error e
      | .ok (rs, priority) => .ok (r :: rs, priority)

def insert (l : RuleList) (name before triggers : Bytes) : Except RuleError (RuleList × Int) :=
  if l.contains name then .error (.duplicate name)
  else if before.isEmpty then .ok (l ++ [⟨name, l.lastPriority, triggers⟩], l.lastPriority)
  else insertBefore name before triggers none l

end RuleList

end MarkdownTidy
