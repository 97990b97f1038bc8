import NestUserService.Lib.Text

/-!
# Attributes in a text of markup

The value of an attribute is what stands between the quotes that follow its name. Values
with character references are not read.
-/

namespace NestUserService.Lib.Markup

/-- What follows the first occurrence of a word. -/
def after (word : List Char) : List Char → Option (List Char)
  | [] => none
  | c :: s => if word <+: c :: s then some ((c :: s).drop word.length) else after word s

/-- The value of the first attribute of the name. -/
def attributeValue (name s : List Char) : Option (List Char) :=
  (after (name ++ ['=', '"']) s).map fun rest => rest.takeWhile (· ≠ '"')

variable {c : Char} {word pre : List Char}

theorem after_self (rest : List Char) : after (c :: word) (c :: word ++ rest) = some rest := by
  have hprefix : c :: word <+: c :: (word ++ rest) := List.prefix_append (c :: word) rest
  have hdrop : (c :: (word ++ rest)).drop (c :: word).length = rest := List.drop_left
  rw [List.cons_append, after, if_pos hprefix, hdrop]

/-- A text without the first letter of the word is passed over. -/
theorem after_append (h : c ∉ pre) (rest : List Char) :
    after (c :: word) (pre ++ rest) = after (c :: word) rest := by
  induction pre with
  | nil => rfl
  | cons d pre ih =>
    obtain ⟨hd, hpre⟩ := not_or.mp (List.mem_cons.not.mp h)
    have hno : ¬ c :: word <+: d :: (pre ++ rest) := fun hp => hd (List.cons_prefix_cons.mp hp).1
    rw [List.cons_append, after, if_neg hno]
    exact ih hpre

theorem attributeValue_append {name value : List Char} (h : c ∉ pre) (hvalue : '"' ∉ value)
    (post : List Char) :
    attributeValue (c :: name) (pre ++ (c :: (name ++ ['=', '"']) ++ (value ++ '"' :: post))) =
      some value := by
  have hstop : (value ++ '"' :: post).takeWhile (· ≠ '"') = value := by
    rw [List.takeWhile_append_of_pos (Text.decide_ne_of_notMem hvalue),
      List.takeWhile_cons_of_neg (by simp), List.append_nil]
  unfold attributeValue
  rw [List.cons_append, after_append h, after_self, Option.map_some, hstop]

end NestUserService.Lib.Markup
