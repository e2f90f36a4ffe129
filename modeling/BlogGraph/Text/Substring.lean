/-!
# Contiguous substrings

A text occurs in another when it stands somewhere in it as a contiguous piece. Main
statement: the test agrees with the list relation `<:+:` (`occursIn_iff`).
-/

namespace BlogGraph.Text

/-- The needle stands somewhere in the text as a contiguous piece. -/
def occursIn (needle : List Char) : List Char → Bool
  | [] => needle.isEmpty
  | c :: rest => needle.isPrefixOf (c :: rest) || occursIn needle rest

/-- The needle stands somewhere in the string. -/
def contains (text needle : String) : Bool :=
  occursIn needle.toList text.toList

theorem occursIn_iff {needle text : List Char} :
    occursIn needle text = true ↔ needle <:+: text := by
  induction text with
  | nil => simp [occursIn]
  | cons c rest ih => simp [occursIn, ih, List.infix_cons_iff]

theorem occursIn_nil (text : List Char) : occursIn [] text = true :=
  occursIn_iff.2 (List.nil_infix)

/-- What occurs in a piece of a text occurs in the text. -/
theorem occursIn_trans {a b c : List Char} (h₁ : occursIn a b = true) (h₂ : occursIn b c = true) :
    occursIn a c = true :=
  occursIn_iff.2 ((occursIn_iff.1 h₁).trans (occursIn_iff.1 h₂))

end BlogGraph.Text
