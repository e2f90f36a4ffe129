import BlogGraph.GraphQL.Parser
import BlogGraph.Proofs.GraphQL.Validity

/-!
# What readers give

Two facts about documents that their readers see to and no rule checks again: the default of a
variable holds no variables, and a selection without braces has nothing inside.

Main statements:

* `Document.wellRead_of_parse`: both hold in whatever document a text is.
-/

namespace BlogGraph.GraphQL
namespace Parser

variable {α β : Type} {P : α → Prop} {Q : β → Prop}

/-! ## Readers and what they give -/

/-- Whatever a reader gives satisfies `P`. -/
def Yields (P : α → Prop) (p : Parser α) : Prop := ∀ ts a rest, p ts = .ok (a, rest) → P a

theorem yields_any (p : Parser α) : Yields (fun _ => True) p := fun _ _ _ _ => trivial

theorem yields_pure {a : α} (h : P a) : Yields P (pure a) := by
  intro ts b rest hb
  obtain ⟨rfl, -⟩ := Prod.mk.inj (Except.ok.inj hb)
  exact h

theorem yields_bind {p : Parser α} {f : α → Parser β} (hp : Yields P p)
    (hf : ∀ a, P a → Yields Q (f a)) : Yields Q (p >>= f) := by
  intro ts b rest hb
  cases h : p ts with
  | error e =>
    have hbind : (p >>= f) ts = Except.error e := by
      change (p ts >>= fun x => f x.1 x.2) = _
      rw [h]
      rfl
    exact absurd (hbind.symm.trans hb) (by simp)
  | ok x =>
    have hbind : (p >>= f) ts = f x.1 x.2 := by
      change (p ts >>= fun x => f x.1 x.2) = _
      rw [h]
      rfl
    exact hf x.1 (hp ts x.1 x.2 h) x.2 b rest (hbind.symm.trans hb)

/-- What is read first does not matter. -/
theorem yields_then {p : Parser α} {f : α → Parser β} (hf : ∀ a, Yields Q (f a)) :
    Yields Q (p >>= f) :=
  yields_bind (yields_any p) fun a _ => hf a

theorem yields_ite {c : Prop} [Decidable c] {p q : Parser α} (hp : Yields P p)
    (hq : Yields P q) : Yields P (if c then p else q) := by
  split
  · exact hp
  · exact hq

theorem yields_throw (e : SyntaxFault) : Yields P (throw e : Parser α) := by
  intro ts a rest h
  exact absurd h (by simp [throw, throwThe, MonadExceptOf.throw, StateT.lift, bind, Except.bind])

theorem yields_fault (t : Token) (reason : String) : Yields P (fault t reason : Parser α) :=
  yields_throw _

theorem yields_unexpected (t : Token) : Yields P (unexpected t : Parser α) := yields_throw _

/-! ## Readers of several items -/

variable {item : Parser α} {«open» close : TokenKind}

theorem yields_itemsUntil (h : Yields P item) (fuel : Nat) :
    Yields (fun as => ∀ a ∈ as, P a) (itemsUntil close item fuel) := by
  induction fuel with
  | zero => exact yields_pure (by simp)
  | succ fuel ih =>
    refine yields_then fun closed => yields_ite (yields_pure (by simp)) ?_
    refine yields_bind h fun a ha => yields_bind ih fun as has => yields_pure ?_
    exact List.forall_mem_cons.2 ⟨ha, has⟩

theorem yields_between (h : Yields P item) :
    Yields (fun as => ∀ a ∈ as, P a) (any «open» close item) :=
  yields_then fun _ => yields_then fun left => yields_itemsUntil h left

theorem yields_optionalMany (h : Yields P item) :
    Yields (fun as => ∀ a ∈ as, P a) (optionalMany «open» close item) := by
  refine yields_then fun opens => yields_ite ?_ (yields_pure (by simp))
  refine yields_then fun _ => yields_bind h fun a ha => yields_then fun left => ?_
  refine yields_bind (yields_itemsUntil h left) fun as has => yields_pure ?_
  exact List.forall_mem_cons.2 ⟨ha, has⟩

end Parser

/-! ## Constants -/

theorem itemUsages_of_closed {s : Schema} {type : Option Ty} {items : List Literal}
    (h : ∀ l ∈ items, l.Closed) : itemUsages s type items = [] := by
  induction items with
  | nil => rfl
  | cons l rest ih =>
    obtain ⟨hl, hrest⟩ := List.forall_mem_cons.1 h
    rw [itemUsages, hl, ih hrest]
    rfl

theorem fieldUsages_of_closed {s : Schema} {type : Option Ty} {fields : List (Name × Literal)}
    (h : ∀ f ∈ fields, f.2.Closed) : fieldUsages s type fields = [] := by
  induction fields with
  | nil => rfl
  | cons f rest ih =>
    obtain ⟨hf, hrest⟩ := List.forall_mem_cons.1 h
    rw [fieldUsages, hf, ih hrest]
    rfl

namespace Parser

/-- No variable stands in a constant. -/
theorem yields_constant (fuel : Nat) : Yields Literal.Closed (value true fuel) := by
  induction fuel with
  | zero => exact yields_then fun t => yields_unexpected t
  | succ fuel ih =>
    refine yields_then fun t => ?_
    simp only
    split
    · refine yields_bind (yields_between ih) fun items h => yields_pure ?_
      intro s type hd
      rw [literalUsages]
      exact itemUsages_of_closed h
    · have hfield : Yields (fun f : Name × Literal => f.2.Closed) (do
          let n ← name
          let _ ← expect .colon
          return (n, ← value true fuel)) :=
        yields_then fun n => yields_then fun _ => yields_bind ih fun l hl => yields_pure hl
      refine yields_bind (yields_between hfield) fun fields h => yields_pure ?_
      intro s type hd
      rw [literalUsages]
      exact fieldUsages_of_closed h
    · exact yields_then fun _ => yields_pure fun _ _ _ => rfl
    · exact yields_then fun _ => yields_pure fun _ _ _ => rfl
    · exact yields_then fun _ => yields_pure fun _ _ _ => rfl
    · exact yields_then fun _ => yields_pure fun _ _ _ => rfl
    · refine yields_then fun _ => ?_
      split <;> exact yields_pure fun _ _ _ => rfl
    · refine yields_then fun _ => yields_then fun next => ?_
      exact yields_ite (yields_fault _ _) (yields_unexpected _)
    · exact yields_unexpected _

/-- The default of a variable is a constant. -/
theorem yields_variableDefinition :
    Yields (fun v => ∀ l, v.defaultValue = some l → l.Closed) variableDefinition := by
  refine yields_then fun start => yields_then fun _ => yields_then fun n => yields_then fun _ =>
    yields_then fun t => yields_then fun hasDefault => yields_ite ?_ ?_
  · refine yields_bind (yields_then yields_constant) fun l hl => ?_
    refine yields_bind (P := fun d => d = some l) (yields_pure rfl) fun d hd => ?_
    refine yields_then fun ds => yields_pure ?_
    simpa [hd] using hl
  · refine yields_bind (P := fun d => d = none) (yields_pure rfl) fun d hd => ?_
    refine yields_then fun ds => yields_pure ?_
    simp [hd]

/-! ## Selections -/

/-- A selection is braced, whatever its parts. -/
theorem yields_selection (fuel : Nat) : Yields Selection.Braced (selection fuel) := by
  induction fuel with
  | zero => exact yields_then fun t => yields_unexpected t
  | succ fuel ih =>
    have hset : Yields (fun xs => ∀ x ∈ xs, x.Braced) (any .braceL .braceR (selection fuel)) :=
      yields_between ih
    let here : Parser Nat := do return (← current).pos
    have hinline : ∀ (t : Token) (condition : Option Name), Yields Selection.Braced (do
        let ds ← directives false
        let brace ← here
        let selections ← any .braceL .braceR (selection fuel)
        pure (Selection.inline t.pos condition ds brace selections)) :=
      fun _ _ => yields_then fun _ => yields_then fun _ =>
        yields_bind hset fun _ h => yields_pure (Selection.Braced.inline h)
    have hfield : ∀ x : Option Name × Name, Yields Selection.Braced (do
        let args ← arguments false
        let ds ← directives false
        let opens ← peek .braceL
        if opens = true then do
          let brace ← here
          let selections ← any .braceL .braceR (selection fuel)
          pure (Selection.field x.1 x.2 args ds (some brace) selections)
        else pure (Selection.field x.1 x.2 args ds none [])) := by
      intro x
      refine yields_then fun _ => yields_then fun _ => yields_then fun _ => yields_ite ?_ ?_
      · exact yields_then fun _ =>
          yields_bind hset fun _ h => yields_pure (Selection.Braced.field (by simp) h)
      · exact yields_pure (Selection.Braced.field (fun _ => rfl) (by simp))
    refine yields_then fun t => yields_ite ?_ ?_
    · refine yields_then fun _ => yields_then fun conditional => yields_then fun _ => ?_
      refine yields_ite
        (yields_then fun _ => yields_then fun _ => yields_pure Selection.Braced.spread) ?_
      refine yields_ite (yields_then fun _ => ?_) ?_
      · exact yields_then fun condition => hinline t condition
      · exact yields_then fun condition => hinline t condition
    · refine yields_then fun first => yields_then fun _ => yields_ite (yields_then fun _ => ?_) ?_
      · exact yields_then hfield
      · exact yields_then hfield

theorem yields_selectionSet :
    Yields (fun set => ∀ x ∈ set.2, x.Braced) selectionSet :=
  yields_then fun _ => yields_then fun left =>
    yields_bind (yields_between (yields_selection left)) fun _ h => yields_pure h

end Parser

/-! ## Definitions -/

/-- A definition as its reader gives it. -/
def Definition.WellRead : Definition → Prop
  | .operation o =>
    (∀ v ∈ o.declarations, ∀ l, v.defaultValue = some l → l.Closed) ∧ ∀ x ∈ o.selections, x.Braced
  | .fragment f => ∀ x ∈ f.selections, x.Braced
  | .system _ => True

namespace Parser

/-- An operation after its name. -/
theorem yields_operationRest (start : Token) (kind : OperationKind) (n : Option Name) :
    Yields Definition.WellRead (do
      let vars ← optionalMany .parenL .parenR variableDefinition
      let ds ← directives false
      let (brace, selections) ← selectionSet
      pure (.operation ⟨start.pos, kind, n, vars, ds, brace, selections⟩)) :=
  yields_bind (yields_optionalMany yields_variableDefinition) fun _ hvars =>
    yields_then fun _ => yields_bind yields_selectionSet fun _ h => yields_pure ⟨hvars, h⟩

theorem yields_operation : Yields Definition.WellRead operation := by
  refine yields_then fun start => yields_ite ?_ ?_
  · exact yields_bind yields_selectionSet fun set h => yields_pure ⟨by simp, h⟩
  · refine yields_then fun _ => yields_then fun kind => yields_then fun named => yields_ite ?_ ?_
    · exact yields_then fun _ => yields_then fun n => yields_operationRest start kind n
    · exact yields_then fun n => yields_operationRest start kind n

theorem yields_fragment : Yields Definition.WellRead fragment := by
  refine yields_then fun _ => yields_then fun _ => yields_then fun _ => yields_then fun _ =>
    yields_then fun _ => yields_then fun _ => yields_then fun _ => ?_
  exact yields_bind yields_selectionSet fun set h => yields_pure h

theorem yields_namedType (start : Token) (isExtension : Bool) (sort : String) :
    Yields Definition.WellRead (namedType start isExtension sort) := by
  refine yields_then fun _ => yields_then fun _ => yields_then fun x => yields_ite ?_ ?_
  · exact yields_then fun t => yields_then fun _ => yields_pure trivial
  · exact yields_pure trivial

theorem yields_schemaType (start : Token) (isExtension : Bool) :
    Yields Definition.WellRead (schemaType start isExtension) := by
  have hfinish : ∀ ds operations, Yields Definition.WellRead (do
      if isExtension && List.isEmpty ds && List.isEmpty operations then unexpected (← current)
      return .system ⟨start.pos, isExtension, none, ds, .schema operations⟩) := by
    intro ds operations
    refine yields_ite ?_ ?_
    · exact yields_then fun t => yields_then fun _ => yields_pure trivial
    · exact yields_pure trivial
  refine yields_then fun _ => yields_then fun ds => yields_ite ?_ ?_
  · exact yields_then fun operations => hfinish ds operations
  · exact yields_then fun operations => hfinish ds operations

theorem yields_directiveType (start : Token) :
    Yields Definition.WellRead (directiveType start) :=
  yields_then fun _ => yields_then fun _ => yields_then fun _ => yields_then fun _ =>
    yields_then fun _ => yields_then fun _ => yields_then fun _ => yields_pure trivial

theorem yields_worded (start keyword : Token) (described : Bool) :
    Yields Definition.WellRead (worded start keyword described) := by
  refine yields_ite (yields_then fun _ => yields_schemaType start false) ?_
  refine yields_ite (yields_then fun _ => yields_namedType start false _) ?_
  refine yields_ite (yields_then fun _ => yields_directiveType start) ?_
  refine yields_ite yields_operation (yields_ite yields_fragment ?_)
  refine yields_ite (yields_fault _ _) (yields_ite ?_ (yields_unexpected _))
  refine yields_then fun start => yields_then fun t => yields_then fun _ => ?_
  refine yields_ite (yields_schemaType start true) (yields_ite ?_ (yields_unexpected _))
  exact yields_namedType start true _

theorem yields_definition : Yields Definition.WellRead definition := by
  refine yields_then fun shorthand => yields_ite yields_operation ?_
  refine yields_then fun start => yields_then fun described => yields_ite ?_ ?_
  · refine yields_then fun keyword => ?_
    refine yields_ite (yields_fault _ _) (yields_ite ?_ (yields_unexpected _))
    exact yields_worded start keyword described
  · refine yields_then fun keyword => ?_
    refine yields_ite (yields_fault _ _) (yields_ite ?_ (yields_unexpected _))
    exact yields_worded start keyword described

theorem yields_document :
    Yields (fun d => ∀ x ∈ d.definitions, x.WellRead) document := by
  refine yields_bind yields_definition fun x hx => yields_then fun left => ?_
  refine yields_bind (yields_itemsUntil yields_definition left) fun xs hxs => yields_pure ?_
  exact List.forall_mem_cons.2 ⟨hx, hxs⟩

end Parser

namespace Document

/-- A document as its reader gives it. -/
structure WellRead (d : Document) : Prop where
  defaults : ∀ o ∈ d.operations, ∀ v ∈ o.declarations, ∀ l, v.defaultValue = some l → l.Closed
  operations : ∀ o ∈ d.operations, ∀ x ∈ o.selections, x.Braced
  fragments : ∀ f ∈ d.fragments, ∀ x ∈ f.selections, x.Braced

/-- **Whatever text a document is read from**, the defaults of its variables are constants, and
what has no braces has nothing inside. -/
theorem wellRead_of_parse {text : String} {d : Document} (h : parse text = .ok d) :
    d.WellRead := by
  have hread : ∀ x ∈ d.definitions, x.WellRead := by
    rw [parse] at h
    split at h
    · next d' rest hrun =>
      obtain rfl := Except.ok.inj h
      exact Parser.yields_document _ _ _ hrun
    · exact absurd h (by simp)
  have hoperation : ∀ o ∈ d.operations,
      (∀ v ∈ o.declarations, ∀ l, v.defaultValue = some l → l.Closed) ∧
      ∀ x ∈ o.selections, x.Braced := by
    intro o ho
    obtain ⟨x, hx, hxo⟩ := List.mem_filterMap.1 ho
    cases x with
    | operation o' =>
      obtain rfl := Option.some.inj hxo
      exact hread _ hx
    | _ => exact absurd hxo (by simp)
  refine ⟨fun o ho => (hoperation o ho).1, fun o ho => (hoperation o ho).2, fun f hf => ?_⟩
  · obtain ⟨x, hx, hxf⟩ := List.mem_filterMap.1 hf
    cases x with
    | fragment f' =>
      obtain rfl := Option.some.inj hxf
      exact hread _ hx
    | _ => exact absurd hxf (by simp)

end Document
end BlogGraph.GraphQL
