import ConditionalForms.Form.Kind
import ConditionalForms.Proofs.Text.Scanning

/-! # Choices of a picklist

The choices of a picklist text undo joining by commas: the texts that were joined come back,
whatever blanks stood around them and whatever blank pieces between them, and the choices of a
joined text are those of its parts. What comes out of any text is in a form that is joined and read
again without change.
-/

namespace ConditionalForms.PickOption

/-- A text that a picklist can offer: trimmed, not empty, and without commas. -/
structure IsChoice (s : String) : Prop where
  trimmed : Text.trimmed s = s
  ne_empty : s ≠ ""
  comma_notMem : ',' ∉ s.toList

/-- The choice of a text, which is its label and its value. -/
def named (s : String) : PickOption := ⟨s, s⟩

/-- Some texts as pieces of a longer text: each text is one piece, with blanks around it, and there
are blank pieces anywhere. -/
inductive Spread : List String → List String → Prop where
  | nil : Spread [] []
  | blank {names pieces : List String} {w : String} (hw : Text.isBlankText w)
      (h : Spread names pieces) : Spread names (w :: pieces)
  | text {names pieces : List String} {s u v : String} (hu : Text.isBlankText u)
      (hv : Text.isBlankText v) (h : Spread names pieces) :
      Spread (s :: names) ((u ++ s ++ v) :: pieces)

/-- A way to split texts into choices that undoes joining texts by commas. -/
structure UndoesJoining (split : String → List PickOption) : Prop where
  spread : ∀ {names pieces : List String}, (∀ s ∈ names, IsChoice s) → Spread names pieces →
    split (",".intercalate pieces) = names.map named
  append : ∀ a b : String, split (a ++ "," ++ b) = split a ++ split b
  choices : ∀ raw : String, ∃ names : List String, (∀ s ∈ names, IsChoice s) ∧
    split raw = names.map named
  rejoined : ∀ raw : String, split (",".intercalate ((split raw).map (·.value))) = split raw

/-! ## Pieces -/

/-- The choice of one piece of a text; a blank piece has none. -/
def ofPiece? (piece : List Char) : Option PickOption :=
  if (Text.trim piece).isEmpty then none else some (named (String.ofList (Text.trim piece)))

theorem ofText_eq (raw : String) : ofText raw = (raw.toList.splitOn ',').filterMap ofPiece? := by
  rw [ofText, List.filterMap_map]
  rfl

theorem ofPiece?_blank {w : List Char} (hw : ∀ c ∈ w, Text.isBlank c) : ofPiece? w = none := by
  simp [ofPiece?, Text.trim_of_blank hw]

theorem ofPiece?_surrounded {s : String} {u v : List Char} (hs : IsChoice s)
    (hu : ∀ c ∈ u, Text.isBlank c) (hv : ∀ c ∈ v, Text.isBlank c) :
    ofPiece? (u ++ (s.toList ++ v)) = some (named s) := by
  have htrim : Text.trim (u ++ (s.toList ++ v)) = s.toList := by
    rw [Text.trim_surrounded hu hv, ← Text.toList_trimmed, hs.trimmed]
  have hne : s.toList.isEmpty = false := by simpa using hs.ne_empty
  simp [ofPiece?, htrim, hne]

/-- What a piece without commas gives is a text that a picklist can offer. -/
theorem exists_isChoice_of_ofPiece? {piece : List Char} {o : PickOption} (hpiece : ',' ∉ piece)
    (h : ofPiece? piece = some o) : ∃ s, IsChoice s ∧ o = named s := by
  unfold ofPiece? at h
  split at h
  · cases h
  · rename_i hne
    refine ⟨String.ofList (Text.trim piece), ⟨?_, ?_, ?_⟩, (Option.some.inj h).symm⟩
    · rw [Text.trimmed, String.toList_ofList, Text.trim_trim]
    · simpa using hne
    · rw [String.toList_ofList]
      exact fun hcomma => hpiece ((Text.trim_infix piece).subset hcomma)

/-! ## Spread texts -/

theorem Spread.comma_notMem {names pieces : List String} (h : Spread names pieces)
    (hnames : ∀ s ∈ names, IsChoice s) : ∀ p ∈ pieces, ',' ∉ p.toList := by
  have hblank : ∀ {w : String}, Text.isBlankText w → ',' ∉ w.toList := by
    intro w hw hcomma
    have hall := List.all_eq_true.mp hw ',' hcomma
    exact absurd hall (by decide)
  induction h with
  | nil => simp
  | blank hw _ ih => exact List.forall_mem_cons.mpr ⟨hblank hw, ih hnames⟩
  | text hu hv _ ih =>
      obtain ⟨hs, hrest⟩ := List.forall_mem_cons.mp hnames
      refine List.forall_mem_cons.mpr ⟨?_, ih hrest⟩
      simp [hblank hu, hblank hv, hs.comma_notMem]

theorem Spread.filterMap_eq {names pieces : List String} (h : Spread names pieces)
    (hnames : ∀ s ∈ names, IsChoice s) :
    (pieces.map String.toList).filterMap ofPiece? = names.map named := by
  induction h with
  | nil => rfl
  | blank hw _ ih =>
      rw [List.map_cons, List.filterMap_cons_none (ofPiece?_blank (List.all_eq_true.mp hw)),
        ih hnames]
  | text hu hv _ ih =>
      obtain ⟨hs, hrest⟩ := List.forall_mem_cons.mp hnames
      have hpiece := ofPiece?_surrounded hs (List.all_eq_true.mp hu) (List.all_eq_true.mp hv)
      rw [List.map_cons, String.toList_append, String.toList_append, List.append_assoc,
        List.filterMap_cons_some hpiece, ih hrest, List.map_cons]

theorem spread_self (names : List String) : Spread names names := by
  induction names with
  | nil => exact .nil
  | cons s names ih =>
      have hblank : Text.isBlankText "" := by decide
      simpa using Spread.text (s := s) hblank hblank ih

theorem ofText_intercalate {names pieces : List String} (hnames : ∀ s ∈ names, IsChoice s)
    (h : Spread names pieces) : ofText (",".intercalate pieces) = names.map named := by
  rw [← h.filterMap_eq hnames]
  cases pieces with
  | nil => rfl
  | cons p pieces =>
      have hcommas : ∀ cs ∈ (p :: pieces).map String.toList, ',' ∉ cs := by
        intro cs hcs
        obtain ⟨q, hq, rfl⟩ := List.mem_map.mp hcs
        exact h.comma_notMem hnames q hq
      have hsep : ",".toList = [','] := rfl
      rw [ofText_eq, String.toList_intercalate, hsep,
        List.splitOn_intercalate ',' hcommas (by simp)]

/-! ## Choices of any text -/

theorem ofText_append (a b : String) : ofText (a ++ "," ++ b) = ofText a ++ ofText b := by
  have htext : (a ++ "," ++ b).toList = a.toList ++ ',' :: b.toList := by simp
  rw [ofText_eq, ofText_eq, ofText_eq, htext, List.splitOn_eq_splitOnP,
    List.splitOnP_append_cons _ _ (by simp), List.filterMap_append, ← List.splitOn_eq_splitOnP,
    ← List.splitOn_eq_splitOnP]

theorem exists_isChoice_of_mem_ofText {raw : String} {o : PickOption} (h : o ∈ ofText raw) :
    ∃ s, IsChoice s ∧ o = named s := by
  rw [ofText_eq] at h
  obtain ⟨piece, hpiece, ho⟩ := List.mem_filterMap.mp h
  apply exists_isChoice_of_ofPiece? _ ho
  intro hcomma
  rw [List.splitOn_eq_splitOnP] at hpiece
  simpa using Text.forall_of_mem_splitOnP hpiece ',' hcomma

theorem exists_names_ofText (raw : String) :
    ∃ names : List String, (∀ s ∈ names, IsChoice s) ∧ ofText raw = names.map named := by
  refine ⟨(ofText raw).map (·.value), ?_, ?_⟩
  · intro value hvalue
    obtain ⟨o, ho, rfl⟩ := List.mem_map.mp hvalue
    obtain ⟨s, hs, rfl⟩ := exists_isChoice_of_mem_ofText ho
    exact hs
  · have hself : ∀ o ∈ ofText raw, named o.value = o := by
      intro o ho
      obtain ⟨s, -, rfl⟩ := exists_isChoice_of_mem_ofText ho
      rfl
    have hnames : (ofText raw).map (fun o => named o.value) = ofText raw := by
      rw [List.map_congr_left hself, List.map_id']
    rw [List.map_map]
    exact hnames.symm

theorem undoesJoining_ofText : UndoesJoining ofText where
  spread := ofText_intercalate
  append := ofText_append
  choices := exists_names_ofText
  rejoined := by
    intro raw
    obtain ⟨names, hnames, hraw⟩ := exists_names_ofText raw
    have hvalues : (ofText raw).map (·.value) = names := by
      rw [hraw, List.map_map]
      exact List.map_id names
    rw [hvalues, ofText_intercalate hnames (spread_self names), hraw]

example : (ofText " Good,Damaged , ,Missing,").map (·.label) = ["Good", "Damaged", "Missing"] := by
  decide

end ConditionalForms.PickOption
