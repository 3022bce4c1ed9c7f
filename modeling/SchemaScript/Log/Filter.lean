import SchemaScript.Log.Rule

/-!
# Filters of events

A filter is a row of rules.  For each event the narrowest rule that concerns
it decides, and of equally narrow ones the last.
-/

namespace SchemaScript

namespace Log

abbrev Filter : Type :=
  List Rule

namespace Filter

def upTo (level : Level) : Filter :=
  [⟨[], .always, some level⟩]

/--
The filter whose rules a text writes between commas; one without rules lets
only errors through.
-/
def parse? (text : String) : Option Filter :=
  match ((text.toList.splitOn ',').filter (· ≠ [])).mapM Rule.ofText? with
  | some [] => some (upTo .error)
  | rules => rules

/-- The narrower one of two rules, of which the first may be missing. -/
def narrower (best : Option Rule) (rule : Rule) : Option Rule :=
  match best with
  | none => some rule
  | some found => if rule.atLeast found then some rule else some found

def deciding? (filter : Filter) (event : Event) : Option Rule :=
  (filter.filter fun rule => rule.concerns event).foldl narrower none

def passes (filter : Filter) (event : Event) : Bool :=
  ((filter.deciding? event).bind Rule.limit).any fun limit =>
    event.level.detail ≤ limit.detail

/--
The filter of a run: the one that the environment sets, if it can be read, and
otherwise one for warnings or, on request, for all but the finest detail.
-/
def ofSettings (setting : Option String) (verbose : Bool) : Filter :=
  (setting.bind parse?).getD (upTo (if verbose then .debug else .warn))

end Filter

end Log

end SchemaScript
