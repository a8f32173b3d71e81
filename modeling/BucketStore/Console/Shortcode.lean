import BucketStore.Console.Emoji
import BucketStore.Text.Blank

namespace BucketStore.Console

/-- Replace the codes of a text. `open?` holds what has been read of a code, backwards, if a colon
has been met. -/
def replaceCodes (open? : Option (List Char)) : List Char → List Char
  | [] => match open? with
    | some code => ':' :: code.reverse
    | none => []
  | c :: rest =>
    match open? with
    | none => if c == ':' then replaceCodes (some []) rest else c :: replaceCodes none rest
    | some code =>
      if c == ':' then expandCode code.reverse ++ replaceCodes none rest
      else if Text.isBlank c then ':' :: code.reverse ++ c :: replaceCodes none rest
      else replaceCodes (some (c :: code)) rest

def withEmoji (cs : List Char) : List Char :=
  replaceCodes none cs

theorem withEmoji_of_no_colon (cs : List Char) (h : ':' ∉ cs) : withEmoji cs = cs := by
  unfold withEmoji
  induction cs with
  | nil => rfl
  | cons c rest ih =>
    have hc : c ≠ ':' := fun e => h (e ▸ List.mem_cons_self)
    have hr : ':' ∉ rest := fun m => h (List.mem_cons_of_mem _ m)
    simp [replaceCodes, hc, ih hr]

end BucketStore.Console
