import SqlScript.Text.Blank
import SqlScript.Text.Case

/-!
# What is said about a statement that returned no rows

The message about a statement depends on its first two words. The first is the verb: a query is
answered with `no rows selected`, a block with a fixed sentence, and any other verb with its past
tense out of a table. The second is what the verb was applied to, and begins the message, so that
`drop table t` is answered with `Table dropped.`

A table of past tenses is ordered and holds a verb once. Putting a verb in again replaces its past
tense and leaves its place. Verbs are compared in upper case, and when two verbs of a table agree
there, the later one counts.
-/

namespace SqlScript

open SqlScript.Text

/-- Past tenses of verbs, in the order in which the verbs were put in. -/
abbrev PastTenses := List (Text × Text)

namespace PastTenses

/-- Put in a verb with its past tense. -/
def put (verb past : Text) : PastTenses → PastTenses
  | [] => [(verb, past)]
  | entry :: rest => if entry.1 = verb then (verb, past) :: rest else entry :: put verb past rest

/-- The table of a list of entries, put in one after another. -/
def ofEntries (entries : List (Text × Text)) : PastTenses :=
  entries.foldl (fun table entry => put entry.1 entry.2 table) []

/-- The table with its verbs in upper case. -/
def inUpper (table : PastTenses) : PastTenses :=
  ofEntries (table.map fun entry => (upper entry.1, entry.2))

/-- The past tenses that are known unless others are given. -/
def usual : PastTenses :=
  [("DROP", "dropped"), ("CREATE", "created"), ("TRUNCATE", "truncated"), ("DELETE", "deleted"),
   ("ALTER", "altered"), ("EXECUTE", "executed"), ("GRANT", "granted")]

end PastTenses

/-- How statements without rows are spoken of. -/
structure Wording where
  /-- The past tenses of the verbs that have one of their own, with the verbs in upper case. -/
  pastTenses : PastTenses := PastTenses.usual.inUpper
  /-- The past tense of every other verb. -/
  fallback : Text := "succeeded"

namespace Wording

/-- The wording of a table in any letter case. -/
def ofTable (table : PastTenses) (fallback : Text) : Wording := ⟨table.inUpper, fallback⟩

/-- The past tense of a verb in upper case. -/
def pastOf (w : Wording) (verb : Text) : Text := (w.pastTenses.lookup verb).getD w.fallback

/-- The message about a statement that returned no rows. -/
def message (w : Wording) (statement : Text) : Text :=
  let verb := upper ((words statement)[0]?.getD [])
  if verb = ['S', 'E', 'L', 'E', 'C', 'T'] then "no rows selected"
  else if ['B', 'E', 'G', 'I', 'N'].isPrefixOf verb ||
      ['D', 'E', 'C', 'L', 'A', 'R', 'E'].isPrefixOf verb then
    "PL/SQL procedure successfully completed."
  else
    let subject := title ((words statement)[1]?.getD [])
    trim (subject ++ ' ' :: w.pastOf verb ++ ['.'])

end Wording

end SqlScript
