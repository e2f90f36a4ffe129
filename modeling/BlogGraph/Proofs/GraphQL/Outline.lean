import BlogGraph.GraphQL.Token
import Mathlib.Data.List.Infix
import Mathlib.Data.List.TakeWhile

/-!
# The outline of a document

A document is cut into segments as its tokens are read: each token, each comment, and each
character between them is one.  A string or a comment is a segment with contents, between the
marks that open and close it; the line end after a comment is not part of it.  With all contents
taken out, the segments are the outline of the document (`outline`): documents of one outline
differ in the contents of strings and comments only.

Main statements:

* `Lexer.token_cases`: where a token ends, and what a string stands between;
* `textOf_segments`: the segments are the whole text;
* `marked_segments`: contents stand after a quote or a number sign, and before a quote, a line end
  or nothing.
-/

namespace BlogGraph.GraphQL

variable {pos fuel : Nat} {acc cs rest : List Char} {c : Char}

/-! ## Where tokens end -/

namespace Lexer

theorem digits_suffix {s : Scan (List Char)} (h : digits pos cs = .ok s) : s.rest <:+ cs := by
  rw [digits] at h
  split at h
  · exact absurd h (by simp)
  · obtain rfl := Except.ok.inj h
    exact List.drop_suffix _ _

theorem wholePart_suffix {s : Scan (List Char)} (h : wholePart pos cs = .ok s) : s.rest <:+ cs := by
  rw [wholePart.eq_def] at h
  split at h
  · next left =>
    split at h
    · exact absurd h (by simp)
    · obtain rfl := Except.ok.inj h
      exact List.suffix_cons _ _
  · exact digits_suffix h

theorem fractionPart_suffix {s : Scan (List Char)} (h : fractionPart pos cs = .ok s) :
    s.rest <:+ cs := by
  rw [fractionPart.eq_def] at h
  split at h
  · next left =>
    split at h
    · next found hfound =>
      obtain rfl := Except.ok.inj h
      exact (digits_suffix hfound).trans (List.suffix_cons _ _)
    · exact absurd h (by simp)
  · obtain rfl := Except.ok.inj h
    exact List.suffix_refl _

theorem exponentPart_suffix {s : Scan (List Char)} (h : exponentPart pos cs = .ok s) :
    s.rest <:+ cs := by
  rw [exponentPart.eq_def] at h
  split at h
  · next mark left =>
    split at h
    · simp only at h
      split at h
      · next found hfound =>
        obtain rfl := Except.ok.inj h
        exact ((digits_suffix hfound).trans (List.drop_suffix _ _)).trans (List.suffix_cons _ _)
      · exact absurd h (by simp)
    · obtain rfl := Except.ok.inj h
      exact List.suffix_refl _
  · obtain rfl := Except.ok.inj h
    exact List.suffix_refl _

theorem number_suffix {s : Scan Token} (h : number pos cs = .ok s) :
    s.rest <:+ cs ∧ (s.value.kind = .int ∨ s.value.kind = .float) := by
  simp only [number, bind, Except.bind] at h
  split at h
  · exact absurd h (by simp)
  next whole hwhole =>
  split at h
  · exact absurd h (by simp)
  next fraction hfraction =>
  split at h
  · exact absurd h (by simp)
  next exponent hexponent =>
  have hrest : exponent.rest <:+ cs :=
    (exponentPart_suffix hexponent).trans <| (fractionPart_suffix hfraction).trans <|
      (wholePart_suffix hwhole).trans (List.drop_suffix _ _)
  split at h
  · exact absurd h (by simp [throw, throwThe, MonadExceptOf.throw])
  · obtain rfl := Except.ok.inj h
    refine ⟨hrest, ?_⟩
    dsimp only
    split
    · exact Or.inl rfl
    · exact Or.inr rfl

theorem points_suffix {s : Scan Token} (h : points pos cs = .ok s) :
    s.rest <:+ cs ∧ s.value.kind = .spread := by
  rw [points.eq_def] at h
  split at h
  · obtain rfl := Except.ok.inj h
    exact ⟨List.suffix_append ['.', '.', '.'] _, rfl⟩
  · exact absurd h (by simp)
  · simp only at h
    split at h
    · exact absurd h (by simp)
    · exact absurd h (by simp)

/-- A string ends at a quote. -/
theorem exists_of_stringRest {s : Scan String} (h : stringRest fuel pos acc cs = .ok s) :
    ∃ content, cs = content ++ '"' :: s.rest := by
  induction fuel generalizing pos acc cs with
  | zero => exact absurd h (by simp [stringRest])
  | succ fuel ih =>
    cases cs with
    | nil => exact absurd h (by simp [stringRest])
    | cons c rest =>
      rw [stringRest] at h
      split at h
      · next hquote =>
        obtain rfl := Except.ok.inj h
        exact ⟨[], by rw [hquote]; rfl⟩
      split at h
      · split at h
        · next d size _ =>
          obtain ⟨content, hcontent⟩ := ih h
          refine ⟨c :: (rest.take (size - 1) ++ content), ?_⟩
          rw [List.cons_append, List.append_assoc, ← hcontent, List.take_append_drop]
        · exact absurd h (by simp)
      split at h
      · exact absurd h (by simp)
      · obtain ⟨content, rfl⟩ := ih h
        exact ⟨c :: content, rfl⟩

/-- A block string ends at three quotes. -/
theorem exists_of_blockRest {line : List Char} {lines : List (List Char)} {s : Scan String}
    (h : blockRest fuel pos line lines cs = .ok s) :
    ∃ content, cs = content ++ (['"', '"', '"'] ++ s.rest) := by
  induction fuel generalizing pos line lines cs with
  | zero => exact absurd h (by simp [blockRest])
  | succ fuel ih =>
    -- what is taken before the rest of the string belongs to its contents
    have hlater {pos line lines after} (taken : List Char)
        (h : blockRest fuel pos line lines after = .ok s) :
        ∃ content, taken ++ after = content ++ (['"', '"', '"'] ++ s.rest) := by
      obtain ⟨content, rfl⟩ := ih h
      exact ⟨taken ++ content, (List.append_assoc ..).symm⟩
    cases cs with
    | nil => exact absurd h (by simp [blockRest])
    | cons c rest =>
      rw [blockRest.eq_def] at h
      dsimp only at h
      split at h
      · next hcs _ =>
        obtain rfl := Except.ok.inj h
        exact ⟨[], hcs⟩
      · next hcs _ =>
        rw [hcs]
        exact hlater ['\\', '"', '"', '"'] h
      · next hcs _ =>
        rw [hcs]
        exact hlater ['\r', '\n'] h
      · split at h
        · exact hlater [c] h
        · exact hlater [c] h

/-- The marks that a token of this kind stands between: strings have them. -/
def quotes : TokenKind → List Char
  | .string => ['"']
  | .blockString => ['"', '"', '"']
  | _ => []

theorem quotes_of_punctuation {kind : TokenKind} (h : TokenKind.ofPunctuation? c = some kind) :
    quotes kind = [] := by
  rw [TokenKind.ofPunctuation?.eq_def] at h
  split at h
  all_goals cases h
  all_goals rfl

/-- **Where a token ends**: a string ends at the marks that it starts with, and any other token ends
somewhere. -/
theorem token_cases {s : Scan Token} (h : token pos c rest = .ok s) :
    (quotes s.value.kind ≠ [] ∧ ∃ content, c :: rest =
      quotes s.value.kind ++ (content ++ quotes s.value.kind) ++ s.rest) ∨
    (quotes s.value.kind = [] ∧ s.rest <:+ c :: rest) := by
  rw [token.eq_def] at h
  dsimp only at h
  split at h
  · next kind hkind =>
    obtain rfl := Except.ok.inj h
    exact Or.inr ⟨quotes_of_punctuation hkind, List.suffix_cons _ _⟩
  split at h
  · obtain ⟨hrest, hkind⟩ := points_suffix h
    exact Or.inr ⟨by rw [hkind]; rfl, hrest⟩
  split at h
  · next hquote =>
    subst hquote
    split at h
    · split at h
      · next found hfound =>
        obtain rfl := Except.ok.inj h
        obtain ⟨content, rfl⟩ := exists_of_blockRest hfound
        exact Or.inl ⟨List.cons_ne_nil _ _, content, by simp [quotes]⟩
      · exact absurd h (by simp)
    · split at h
      · next found hfound =>
        obtain rfl := Except.ok.inj h
        obtain ⟨content, rfl⟩ := exists_of_stringRest hfound
        exact Or.inl ⟨List.cons_ne_nil _ _, content, by simp [quotes]⟩
      · exact absurd h (by simp)
  split at h
  · obtain ⟨hrest, hkind⟩ := number_suffix h
    refine Or.inr ⟨?_, hrest⟩
    rcases hkind with hkind | hkind
    · rw [hkind]
      rfl
    · rw [hkind]
      rfl
  split at h
  · obtain rfl := Except.ok.inj h
    exact Or.inr ⟨rfl, List.drop_suffix _ _⟩
  · exact absurd h (by simp)

end Lexer

/-! ## Segments -/

/-- A segment of a document: what opens and what closes it, and the contents between.  Only strings
and comments have contents. -/
structure Segment where
  opening : List Char
  content : List Char
  closing : List Char
deriving DecidableEq, Repr

namespace Segment

/-- A segment that shows as a whole. -/
def shown (text : List Char) : Segment := ⟨text, [], []⟩

/-- A comment, from its sign to the end of the line. -/
def comment (content : List Char) : Segment := ⟨['#'], content, []⟩

/-- The contents of this text between the same marks at both ends. -/
def between (marks text : List Char) : Segment :=
  ⟨marks, (text.drop marks.length).take (text.length - 2 * marks.length), marks⟩

/-- The segment of a token with this text. -/
def ofToken (kind : TokenKind) (text : List Char) : Segment :=
  if Lexer.quotes kind = [] then shown text else between (Lexer.quotes kind) text

/-- The characters of a segment. -/
def text (s : Segment) : List Char := s.opening ++ (s.content ++ s.closing)

/-- A segment without its contents. -/
def emptied (s : Segment) : Segment := { s with content := [] }

theorem between_append (marks content : List Char) :
    between marks (marks ++ (content ++ marks)) = ⟨marks, content, marks⟩ := by
  have hsize : (marks ++ (content ++ marks)).length - 2 * marks.length = content.length := by
    simp only [List.length_append]
    omega
  rw [between, hsize, List.drop_left, List.take_left]

end Segment

open Segment

/-- The text that segments make up. -/
def textOf (ss : List Segment) : List Char := ss.flatMap Segment.text

/-- What was taken from the front of a text when this is left of it. -/
def taken (cs left : List Char) : List Char := cs.take (cs.length - left.length)

theorem taken_append (cs left : List Char) : taken (cs ++ left) left = cs := by
  rw [taken, List.length_append, Nat.add_sub_cancel, List.take_left]

/-- The segments of a text, as its tokens are read one after the other; what cannot be read is one
segment.  Each step takes at least one character. -/
def segmentsFrom : Nat → List Char → List Segment
  | _, [] => []
  | 0, cs => [shown cs]
  | fuel + 1, c :: rest =>
    if Lexer.isIgnored c then shown [c] :: segmentsFrom fuel rest
    else if c = '#' then
      let content := rest.takeWhile (!Lexer.endsLine ·)
      comment content :: segmentsFrom fuel (rest.drop content.length)
    else
      match Lexer.token 0 c rest with
      | .ok s =>
        ofToken s.value.kind (taken (c :: rest) s.rest) :: segmentsFrom fuel s.rest
      | .error _ => [shown (c :: rest)]

/-- The segments of a document. -/
def segments (cs : List Char) : List Segment := segmentsFrom (cs.length + 1) cs

/-- The segments of a document without their contents. -/
def outline (cs : List Char) : List Segment := (segments cs).map emptied

/-- The marks next to contents: quotes, the sign of a comment, and line ends. -/
def marks : List Char := ['"', '#', '\n', '\r']

/-- A segment has contents only after a quote or the sign of a comment, and if what follows them
starts with a mark, if anything follows. -/
def Segment.Marked (s : Segment) (after : List Char) : Prop :=
  s.content = [] ∨
    (∃ before d, s.opening = before ++ [d] ∧ (d = '"' ∨ d = '#')) ∧
      ∀ c ∈ (s.closing ++ after).head?, c ∈ marks

/-- All segments with contents stand between marks. -/
def Marked : List Segment → Prop
  | [] => True
  | s :: rest => s.Marked (textOf rest) ∧ Marked rest

/-- What quotes open and close stands between marks. -/
theorem Segment.marked_between {kind : TokenKind} (h : Lexer.quotes kind ≠ [])
    (content after : List Char) :
    Segment.Marked ⟨Lexer.quotes kind, content, Lexer.quotes kind⟩ after := by
  right
  have hkind : Lexer.quotes kind = ['"'] ∨ Lexer.quotes kind = ['"', '"', '"'] := by
    cases kind
    case string => exact Or.inl rfl
    case blockString => exact Or.inr rfl
    all_goals exact absurd rfl h
  rcases hkind with hquotes | hquotes
  · rw [hquotes]
    exact ⟨⟨[], '"', rfl, Or.inl rfl⟩, by simp [marks]⟩
  · rw [hquotes]
    exact ⟨⟨['"', '"'], '"', rfl, Or.inl rfl⟩, by simp [marks]⟩

/-- The segment of a token and the rest are the text; contents stand between marks. -/
theorem ofToken_spec {s : Lexer.Scan Token} (h : Lexer.token pos c rest = .ok s) :
    (ofToken s.value.kind (taken (c :: rest) s.rest)).text ++ s.rest = c :: rest ∧
      ∀ after, (ofToken s.value.kind (taken (c :: rest) s.rest)).Marked after := by
  obtain ⟨hquotes, content, hcs⟩ | ⟨hquotes, before, hcs⟩ := Lexer.token_cases h
  · rw [hcs, taken_append, ofToken, if_neg hquotes, between_append]
    exact ⟨rfl, marked_between hquotes content⟩
  · rw [← hcs, taken_append, ofToken, if_pos hquotes]
    exact ⟨by simp [shown, text], fun _ => Or.inl rfl⟩

/-! ## The whole text -/

/-- A comment goes on up to a line end. -/
theorem mem_marks_after_comment {content : List Char}
    (hcontent : content = rest.takeWhile (!Lexer.endsLine ·)) {d : Char}
    (hd : d ∈ (rest.drop content.length).head?) : d ∈ marks := by
  have hprefix : content <+: rest := hcontent ▸ List.takeWhile_prefix _
  have hdrop : rest.drop content.length = rest.dropWhile (!Lexer.endsLine ·) := by
    rw [← List.append_right_inj content, ← List.prefix_append_drop hprefix, hcontent,
      List.takeWhile_append_dropWhile]
  have hends := List.head?_dropWhile_not (!Lexer.endsLine ·) rest
  rw [← hdrop, Option.mem_def.1 hd] at hends
  have hline : d = '\n' ∨ d = '\r' := by
    by_contra hnot
    rw [not_or] at hnot
    simp [Lexer.endsLine, hnot] at hends
  rcases hline with rfl | rfl
  · decide
  · decide

theorem textOf_segmentsFrom (fuel : Nat) (cs : List Char) : textOf (segmentsFrom fuel cs) = cs := by
  induction fuel generalizing cs with
  | zero => cases cs <;> simp [segmentsFrom, textOf, shown, text]
  | succ fuel ih =>
    cases cs with
    | nil => rfl
    | cons c rest =>
      rw [segmentsFrom]
      split
      · rw [textOf, List.flatMap_cons, ← textOf, ih]
        rfl
      split
      · next hsign =>
        rw [textOf, List.flatMap_cons, ← textOf, ih, hsign, comment, text, List.append_nil,
          List.append_assoc, ← List.prefix_append_drop (List.takeWhile_prefix _)]
        rfl
      split
      · next s hs =>
        rw [textOf, List.flatMap_cons, ← textOf, ih]
        exact (ofToken_spec hs).1
      · simp [textOf, shown, text]

/-- **The segments of a document** are its whole text. -/
theorem textOf_segments (cs : List Char) : textOf (segments cs) = cs := textOf_segmentsFrom _ cs

theorem marked_segmentsFrom (fuel : Nat) (cs : List Char) : Marked (segmentsFrom fuel cs) := by
  induction fuel generalizing cs with
  | zero => cases cs <;> simp [segmentsFrom, Marked, Segment.Marked, shown]
  | succ fuel ih =>
    cases cs with
    | nil => trivial
    | cons c rest =>
      rw [segmentsFrom]
      split
      · exact ⟨Or.inl rfl, ih rest⟩
      split
      · refine ⟨Or.inr ⟨⟨[], '#', rfl, Or.inr rfl⟩, ?_⟩, ih _⟩
        rw [textOf_segmentsFrom]
        exact fun d hd => mem_marks_after_comment rfl hd
      split
      · next s hs => exact ⟨(ofToken_spec hs).2 _, ih s.rest⟩
      · exact ⟨Or.inl rfl, trivial⟩

/-- **Contents stand between marks** in every document. -/
theorem marked_segments (cs : List Char) : Marked (segments cs) := marked_segmentsFrom _ cs

end BlogGraph.GraphQL
