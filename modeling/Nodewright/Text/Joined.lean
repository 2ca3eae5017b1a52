/-! # Texts in a row

* `joinWith`   the texts with a separator between neighbours
* `alternatives`   a choice between the texts, as a reader would say it: `a, b or c`
* `ticked`   the texts in ticks, separated by commas -/

namespace Nodewright.Text

/-- The texts with `sep` between neighbours. -/
def joinWith (sep : String) : List String → String
  | [] => ""
  | [s] => s
  | s :: t :: rest => s ++ sep ++ joinWith sep (t :: rest)

@[simp] theorem joinWith_nil (sep : String) : joinWith sep [] = "" := rfl

@[simp] theorem joinWith_singleton (sep s : String) : joinWith sep [s] = s := rfl

@[simp] theorem joinWith_cons_cons (sep s t : String) (rest : List String) :
    joinWith sep (s :: t :: rest) = s ++ sep ++ joinWith sep (t :: rest) := rfl

/-- A choice between the texts: commas between them, and `or` before the last one. -/
def alternatives : List String → String
  | [] => ""
  | [s] => s
  | s :: t :: rest => joinWith ", " ((s :: t :: rest).dropLast) ++ " or " ++
      (t :: rest).getLast (List.cons_ne_nil t rest)

/-- A text between ticks. -/
def ticked (s : String) : String := "\x60" ++ s ++ "\x60"

end Nodewright.Text
