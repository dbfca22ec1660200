import ConditionalForms.Form.Builder
import ConditionalForms.Proofs.Number.Spellings

/-! # Orders as numbers and as texts

An order is exact at every size, whether a row gives it as a number or as a text: the text is read
as an integer and never as a double. A form depends on its orders alone and not on how its rows give
them, so it does not matter in which of the two ways an order is given.
-/

namespace ConditionalForms

/-! ## Spellings -/

/-- A text that gives an integer: one of the ways to write it, with blanks around it. The integer
has few enough digits to be read. -/
inductive Spells : Int → String → Prop where
  | intro {n : Int} {u t v : String} (hu : Text.isBlankText u) (hv : Text.isBlankText v)
      (ht : Decimal.Writes n t.toList)
      (hn : (Nat.toDigits 10 n.natAbs).length ≤ Decimal.digitLimit) : Spells n (u ++ t ++ v)

/-- Two cells that are the same, or give an order once as a number and once as a text. -/
inductive OrderCell.Respelled : OrderCell → OrderCell → Prop where
  | same (c : OrderCell) : Respelled c c
  | text {n : Int} {s : String} (h : Spells n s) : Respelled (.int n) (.text s)

/-- Two rows that differ in how they give their orders, at most. -/
structure Row.Respelled (r r' : Row) : Prop where
  sectionOrder : r.sectionOrder.Respelled r'.sectionOrder
  fieldOrder : r.fieldOrder.Respelled r'.fieldOrder
  rest : { r with sectionOrder := r'.sectionOrder, fieldOrder := r'.fieldOrder } = r'

/-- Orders are exact, as numbers and as texts, and forms do not tell the two apart. -/
structure ExactOrders (order? : OrderCell → Option Int) (form : List Row → Schema) : Prop where
  number : ∀ n : Int, order? (.int n) = some n
  /-- A text is read as an integer, so no double takes part. -/
  integral : ∀ {n : Int} {s : String}, Spells n s →
    Decimal.readInt (Text.trim s.toList) = .value n
  text : ∀ {n : Int} {s : String}, Spells n s → order? (.text s) = some n
  decimal : ∀ n : Int, (Nat.toDigits 10 n.natAbs).length ≤ Decimal.digitLimit →
    order? (.text (toString n)) = some n
  keys : ∀ {c c' : OrderCell}, c.Respelled c' →
    ∀ name : String, SortKey.of (order? c) name = SortKey.of (order? c') name
  forms : ∀ {rows rows' : List Row}, List.Forall₂ Row.Respelled rows rows' →
    form rows = form rows'

/-- The decimal text of an integer gives it. -/
theorem spells_toString {n : Int} (hn : (Nat.toDigits 10 n.natAbs).length ≤ Decimal.digitLimit) :
    Spells n (toString n) := by
  have h := Spells.intro (u := "") (v := "") (by decide) (by decide) (Decimal.writes_toString n) hn
  simpa using h

theorem Spells.readInt_eq {n : Int} {s : String} (h : Spells n s) :
    Decimal.readInt (Text.trim s.toList) = .value n := by
  cases h with
  | @intro u t v hu hv ht hn =>
      have htrim : Text.trim (u ++ t ++ v).toList = t.toList := by
        rw [String.toList_append, String.toList_append, List.append_assoc,
          Text.trim_surrounded (List.all_eq_true.mp hu) (List.all_eq_true.mp hv), ht.trim_eq]
      rw [htrim, Decimal.readInt_of_writes ht hn]

theorem Spells.order?_eq {n : Int} {s : String} (h : Spells n s) :
    (OrderCell.text s).order? = some n := by
  simp only [OrderCell.order?, OrderCell.ofText?, h.readInt_eq]

theorem OrderCell.Respelled.order?_eq {c c' : OrderCell} (h : c.Respelled c') :
    c.order? = c'.order? := by
  cases h with
  | same c => rfl
  | text h => exact h.order?_eq.symm

/-! ## Forms of respelled rows -/

namespace Row

variable {r r' : Row}

theorem Respelled.toField_eq (h : r.Respelled r') (position : Nat) :
    r.toField position = r'.toField position := by
  have horder : r.fieldOrder.order? = r'.fieldOrder.order? := h.fieldOrder.order?_eq
  rw [← h.rest]
  simp only [toField, horder]

theorem Respelled.place_eq (h : r.Respelled r') (name : String) (opened : Nat)
    (ss : List Section) : Builder.place name r opened ss = Builder.place name r' opened ss := by
  have horder : r.sectionOrder.order? = r'.sectionOrder.order? := h.sectionOrder.order?_eq
  have hrule : r.sectionRule = r'.sectionRule := by rw [← h.rest]
  have hwithRow (s : Section) : s.withRow r = s.withRow r' := by
    simp only [Section.withRow, h.toField_eq]
  have hopened (position : Nat) :
      Section.opened name r position = Section.opened name r' position := by
    simp only [Section.opened, horder, hrule]
  have hmerged (s : Section) : s.merged r = s.merged r' := by
    simp only [Section.merged, horder, hrule]
  induction ss generalizing opened with
  | nil => simp only [Builder.place, hwithRow, hopened]
  | cons s ss ih => simp only [Builder.place, hwithRow, hmerged, ih]

theorem Respelled.sectionTitle_eq (h : r.Respelled r') (d : String) :
    r.sectionTitle d = r'.sectionTitle d := by
  have hname : r.sectionName = r'.sectionName := by rw [← h.rest]
  simp only [sectionTitle, hname]

end Row

theorem Builder.gather_respelled {rows rows' : List Row}
    (h : List.Forall₂ Row.Respelled rows rows') (d : String) : gather d rows = gather d rows' := by
  have hfold (ss : List Section) :
      rows.foldl (fun ss r => place (r.sectionTitle d) r 0 ss) ss =
        rows'.foldl (fun ss r => place (r.sectionTitle d) r 0 ss) ss := by
    induction h generalizing ss with
    | nil => rfl
    | cons hrow _ ih =>
        rw [List.foldl_cons, List.foldl_cons, hrow.sectionTitle_eq, hrow.place_eq, ih]
  exact hfold []

theorem exactOrders (d : String) : ExactOrders OrderCell.order? (Schema.ofRows d) where
  number := fun _ => rfl
  integral := Spells.readInt_eq
  text := Spells.order?_eq
  decimal := fun _ hn => (spells_toString hn).order?_eq
  keys := by
    intro c c' h name
    rw [h.order?_eq]
  forms := by
    intro rows rows' h
    rw [Schema.ofRows, Schema.ofRows, Builder.gather_respelled h]

example : (OrderCell.text " +9_007_199_254_740_993\n").order? = some 9007199254740993 := by decide

end ConditionalForms
