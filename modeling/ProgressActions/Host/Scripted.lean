import ProgressActions.Host

/-!
# A host that answers by rote

All answers of this host are laid down in advance. It writes its totals as the three labels in
brackets, prints no report, and runs no command.
-/

namespace ProgressActions

/-- The answers of a host that is scripted in advance. -/
structure ScriptedHost where
  program : String := "tar"
  archive : String := "test.tar"
  /-- The time on the host's timer when the run begins. -/
  elapsed : Duration := .zero
  /-- Texts for messages; a message that is not listed stands for itself. -/
  texts : List (String × String) := []
  /-- Why commands fail, if they do. -/
  execError : Option String := none
  /-- Whether there are no totals to show. -/
  totalsFail : Bool := false
  deriving DecidableEq, Repr

namespace ScriptedHost

def totalsText (labels : Template.Labels) : String :=
  "[" ++ labels.read ++ "|" ++ labels.written ++ "|" ++ labels.deleted ++ "]"

/-- A text, unless totals fail. -/
def unlessFailing (h : ScriptedHost) (text : String) : Except Failure String :=
  if h.totalsFail then .error .noTotals else .ok text

instance : Host ScriptedHost where
  name h := h.program
  localize h message := (h.texts.lookup message).getD message
  archive h := h.archive
  measure moment h := (h.elapsed.saturatingAdd moment, h)
  totals h labels _ := h.unlessFailing (totalsText labels)
  report h := h.unlessFailing ""
  exec _ _ _ h := ({ failure := h.execError }, h)
  noteError _ h := (none, h)

end ScriptedHost

end ProgressActions
