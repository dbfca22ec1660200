import ConditionalForms.Json.Nesting
import ConditionalForms.Proofs.Assoc.Overwriting
import ConditionalForms.Proofs.Json.Literals
import ConditionalForms.Proofs.Json.Scalars

/-! # Reading what was written

A value that JSON can hold exactly is got back from its text, in every layout whose gaps are blank:
whatever characters its texts have, and however deep it nests, by a reader that goes as deep.
-/

namespace ConditionalForms.Json

/-- A value that JSON holds exactly: without doubles, with integers of few enough digits, and with
objects that name each of their fields once. -/
inductive IsExact : Json → Prop where
  | null : IsExact .null
  | bool (b : Bool) : IsExact (.bool b)
  | int {i : Int} (hi : Decimal.fitsDigits i) : IsExact (.int i)
  | text (s : String) : IsExact (.text s)
  | list {items : List Json} (h : ∀ j ∈ items, IsExact j) : IsExact (.list items)
  | object {fields : List (String × Json)} (hkeys : (fields.map (·.1)).Nodup)
      (h : ∀ f ∈ fields, IsExact f.2) : IsExact (.object fields)

/-- A layout whose gaps hold nothing but blanks. -/
structure Layout.IsBlank (l : Layout) : Prop where
  itemGap : ∀ c ∈ l.itemGap, Reader.isSpace c
  fieldGap : ∀ c ∈ l.fieldGap, Reader.isSpace c

/-- Reads a whole text as one value that nests no deeper than a number of levels. -/
def readWithin (room : Nat) (cs : List Char) : Except ReadFailure Json :=
  if cs.head? = some (Char.ofNat 0xFEFF) then Reader.misread .byteOrderMark cs
  else do
    let (v, r) ← Reader.value (2 * cs.length + 1) room (Reader.skipSpace cs)
    match Reader.skipSpace r with
    | [] => .ok v
    | r => Reader.misread .extraData r

theorem read_eq : read = readWithin nestingLimit := rfl

namespace Reader

open Scan (isDigit)

/-! ## Steps of the reader -/

section

variable {fuel room : Nat} {cs after rest : List Char} {v : Json}

theorem items_last {before : List Json} (hvalue : value fuel room cs = .ok (v, after))
    (hafter : skipSpace after = ']' :: rest) :
    items (fuel + 1) room before cs = .ok (.list (before ++ [v]), rest) := by
  rw [items, hvalue]
  simp only [bind, Except.bind, hafter]

theorem items_next {before : List Json} (hvalue : value fuel room cs = .ok (v, after))
    (hafter : skipSpace after = ',' :: rest) :
    items (fuel + 1) room before cs = items fuel room (before ++ [v]) (skipSpace rest) := by
  rw [items, hvalue]
  simp only [bind, Except.bind, hafter]

variable {before : List (String × Json)} {ascii : Bool} {k : String}

theorem encodeText_append (ascii : Bool) (s : String) (cs : List Char) :
    encodeText ascii s ++ cs = '"' :: (s.toList.flatMap (encodeChar ascii) ++ '"' :: cs) := by
  simp [encodeText]

theorem members_last (hvalue : value fuel room (skipSpace cs) = .ok (v, after))
    (hafter : skipSpace after = '}' :: rest) :
    members (fuel + 1) room before (encodeText ascii k ++ ':' :: cs) =
      .ok (.object (Assoc.put k v before), rest) := by
  rw [encodeText_append, members, string_encoded]
  simp only [bind, Except.bind, skipSpace_cons (by decide : isSpace ':' = false), hvalue, hafter]

theorem members_next (hvalue : value fuel room (skipSpace cs) = .ok (v, after))
    (hafter : skipSpace after = ',' :: rest) :
    members (fuel + 1) room before (encodeText ascii k ++ ':' :: cs) =
      members fuel room (Assoc.put k v before) (skipSpace rest) := by
  rw [encodeText_append, members, string_encoded]
  simp only [bind, Except.bind, skipSpace_cons (by decide : isSpace ':' = false), hvalue, hafter]

theorem value_scalar {c : Char} (h : c ∉ ['"', '[', '{']) :
    value (fuel + 1) room (c :: cs) = scalar (c :: cs) := by
  obtain ⟨hquote, hbracket, hbrace⟩ : c ≠ '"' ∧ c ≠ '[' ∧ c ≠ '{' := by simpa using h
  simp [value, hquote, hbracket, hbrace]

theorem value_list {c : Char} (hc : c ≠ ']') (hcs : skipSpace cs = c :: rest) :
    value (fuel + 1) (room + 1) ('[' :: cs) = items fuel room [] (c :: rest) := by
  simp [value, hcs, hc]

theorem value_object {c : Char} (hc : c ≠ '}') (hcs : skipSpace cs = c :: rest) :
    value (fuel + 1) (room + 1) ('{' :: cs) = members fuel room [] (c :: rest) := by
  simp [value, hcs, hc]

end

/-! ## Gaps of layouts -/

section

variable {l : Layout}

theorem isSpace_lineBreak (l : Layout) (depth : Nat) : ∀ c ∈ l.lineBreak depth, isSpace c := by
  intro c hc
  unfold Layout.lineBreak at hc
  split at hc
  · cases hc
  · rcases List.mem_cons.mp hc with rfl | hc
    · decide
    · obtain rfl : c = ' ' := (List.mem_replicate.mp hc).2
      decide

theorem isSpace_comma_gap (hl : l.IsBlank) (depth : Nat) :
    ∀ c ∈ l.itemGap ++ l.lineBreak depth, isSpace c := by
  intro c hc
  rcases List.mem_append.mp hc with hc | hc
  · exact hl.itemGap c hc
  · exact isSpace_lineBreak l depth c hc

theorem isSpace_iff {c : Char} : isSpace c ↔ c ∈ [' ', '\t', '\n', '\r'] := by
  simp [isSpace, or_assoc]

theorem endsNumber_cons {c : Char} (h : isSpace c ∨ c ∈ [',', ']', '}']) (rest : List Char) :
    EndsNumber (c :: rest) := by
  intro d hd
  obtain rfl : c = d := by simpa using hd
  have hgaps : ∀ d ∈ [' ', '\t', '\n', '\r'] ++ [',', ']', '}'],
      isDigit d = false ∧ d ≠ '.' ∧ d ≠ 'e' ∧ d ≠ 'E' := by simp [isDigit]
  apply hgaps
  rw [List.mem_append, ← isSpace_iff]
  exact h

theorem endsNumber_gap {gap : List Char} (hgap : ∀ c ∈ gap, isSpace c) {c : Char}
    (hc : c ∈ [',', ']', '}']) (rest : List Char) : EndsNumber (gap ++ c :: rest) := by
  cases gap with
  | nil => exact endsNumber_cons (.inr hc) rest
  | cons d gap => exact endsNumber_cons (.inl (hgap d (by simp))) _

/-! ## Values -/

/-- What every written value starts with: no blank, no end of a list and no byte order mark. -/
theorem exists_render_eq_cons {j : Json} (h : j.IsExact) (l : Layout) (depth : Nat) :
    ∃ c cs, render l depth j = c :: cs ∧ isSpace c = false ∧ c ≠ ']' ∧ c ≠ Char.ofNat 0xFEFF := by
  cases h with
  | null => exact ⟨'n', _, rfl, by decide, by decide, by decide⟩
  | bool b =>
      cases b with
      | true => exact ⟨'t', _, rfl, by decide, by decide, by decide⟩
      | false => exact ⟨'f', _, rfl, by decide, by decide, by decide⟩
  | @int i _ =>
      rw [render]
      obtain ⟨d, cs, hd, htext⟩ := exists_digit_of_toString i
      rcases htext with htext | htext
      · have hgaps : ∀ c ∈ [' ', '\t', '\n', '\r'], isDigit c = false := by simp [isDigit]
        have hspace : isSpace d = false := by
          by_contra hgap
          have hmem := isSpace_iff.mp (by simpa using hgap)
          exact ne_of_isDigit hd (hgaps d hmem) rfl
        exact ⟨d, cs, htext, hspace, (ne_of_isDigit hd (by decide)).symm,
          (ne_of_isDigit hd (by decide)).symm⟩
      · exact ⟨'-', d :: cs, htext, by decide, by decide, by decide⟩
  | text s => exact ⟨'"', _, rfl, by decide, by decide, by decide⟩
  | @list items _ =>
      cases items with
      | nil => exact ⟨'[', _, rfl, by decide, by decide, by decide⟩
      | cons x xs => exact ⟨'[', _, by rw [render]; rfl, by decide, by decide, by decide⟩
  | @object fields _ _ =>
      cases fields with
      | nil => exact ⟨'{', _, rfl, by decide, by decide, by decide⟩
      | cons f fs => exact ⟨'{', _, by rw [render]; rfl, by decide, by decide, by decide⟩

theorem skipSpace_rendered {gap : List Char} (hgap : ∀ c ∈ gap, isSpace c) {j : Json}
    (h : j.IsExact) (l : Layout) (depth : Nat) (cs : List Char) :
    skipSpace (gap ++ (render l depth j ++ cs)) = render l depth j ++ cs := by
  obtain ⟨c, ds, hrender, hc, -⟩ := exists_render_eq_cons h l depth
  rw [skipSpace_append hgap, hrender, List.cons_append, skipSpace_cons hc]

theorem skipSpace_closed {gap : List Char} (hgap : ∀ c ∈ gap, isSpace c) {c : Char}
    (hc : isSpace c = false) (cs : List Char) : skipSpace (gap ++ c :: cs) = c :: cs := by
  rw [skipSpace_append hgap, skipSpace_cons hc]

theorem skipSpace_encodeText {gap : List Char} (hgap : ∀ c ∈ gap, isSpace c) (ascii : Bool)
    (s : String) (cs : List Char) :
    skipSpace (gap ++ (encodeText ascii s ++ cs)) = encodeText ascii s ++ cs := by
  rw [encodeText_append, skipSpace_closed hgap (by decide)]

/-- A value is got back from its text, whatever is written after it. -/
def ReadsBack (l : Layout) (j : Json) : Prop :=
  ∀ (depth fuel room : Nat) {rest : List Char}, (render l depth j).length ≤ fuel →
    j.levels ≤ room → EndsNumber rest →
      value fuel room (render l depth j ++ rest) = .ok (j, rest)

theorem renderItems_cons_append (l : Layout) (depth : Nat) (x : Json) (xs : List Json)
    (cs : List Char) :
    renderItems l depth (x :: xs) ++ cs =
      ',' :: ((l.itemGap ++ l.lineBreak depth) ++
        (render l depth x ++ (renderItems l depth xs ++ cs))) := by
  simp [renderItems, Layout.comma]

theorem endsNumber_renderItems (l : Layout) (depth : Nat) (xs : List Json) {tail : List Char}
    (htail : EndsNumber tail) : EndsNumber (renderItems l depth xs ++ tail) := by
  cases xs with
  | nil => exact htail
  | cons x xs =>
      rw [renderItems_cons_append]
      exact endsNumber_cons (.inr (by simp)) _

theorem items_rendered (hl : l.IsBlank) {xs : List Json} {tail rest : List Char}
    (htail : EndsNumber tail) (hclose : skipSpace tail = ']' :: rest) {x : Json}
    {depth fuel room : Nat} (before : List Json) (hx : ReadsBack l x)
    (hxs : ∀ y ∈ xs, y.IsExact ∧ ReadsBack l y)
    (hfuel : (render l depth x).length + (renderItems l depth xs).length < fuel)
    (hroom : itemLevels (x :: xs) ≤ room) :
    items fuel room before (render l depth x ++ (renderItems l depth xs ++ tail)) =
      .ok (.list (before ++ x :: xs), rest) := by
  induction xs generalizing x fuel before with
  | nil =>
      obtain ⟨fuel, rfl⟩ := Nat.exists_eq_add_one.mpr (by omega : 0 < fuel)
      rw [itemLevels] at hroom
      have hvalue := hx depth fuel room (by omega) (by omega)
        (endsNumber_renderItems l depth [] htail)
      exact items_last hvalue hclose
  | cons y ys ih =>
      obtain ⟨⟨hexact, hy⟩, hys⟩ := List.forall_mem_cons.mp hxs
      obtain ⟨fuel, rfl⟩ := Nat.exists_eq_add_one.mpr (by omega : 0 < fuel)
      rw [itemLevels] at hroom
      have hvalue := hx depth fuel room (by omega) (by omega)
        (endsNumber_renderItems l depth (y :: ys) htail)
      have hlength : (render l depth y).length + (renderItems l depth ys).length <
          (renderItems l depth (y :: ys)).length := by
        simp [renderItems, Layout.comma]
        omega
      have hcomma : skipSpace (renderItems l depth (y :: ys) ++ tail) =
          ',' :: ((l.itemGap ++ l.lineBreak depth) ++
            (render l depth y ++ (renderItems l depth ys ++ tail))) := by
        rw [renderItems_cons_append, skipSpace_cons (by decide)]
      rw [items_next hvalue hcomma, skipSpace_rendered (isSpace_comma_gap hl depth) hexact,
        ih (before ++ [x]) hy hys (by omega) (by omega), List.append_assoc, List.singleton_append]

theorem renderFields_cons_append (l : Layout) (depth : Nat) (k : String) (v : Json)
    (fs : List (String × Json)) (cs : List Char) :
    renderFields l depth ((k, v) :: fs) ++ cs =
      ',' :: ((l.itemGap ++ l.lineBreak depth) ++
        (encodeText l.ascii k ++ ':' :: (l.fieldGap ++
          (render l depth v ++ (renderFields l depth fs ++ cs))))) := by
  simp [renderFields, Layout.comma]

theorem endsNumber_renderFields (l : Layout) (depth : Nat) (fs : List (String × Json))
    {tail : List Char} (htail : EndsNumber tail) :
    EndsNumber (renderFields l depth fs ++ tail) := by
  cases fs with
  | nil => exact htail
  | cons f fs =>
      rw [renderFields_cons_append]
      exact endsNumber_cons (.inr (by simp)) _

theorem members_rendered (hl : l.IsBlank) {fs : List (String × Json)} {tail rest : List Char}
    (htail : EndsNumber tail) (hclose : skipSpace tail = '}' :: rest) {k : String} {v : Json}
    {depth fuel room : Nat} (before : List (String × Json))
    (hkeys : ((before ++ (k, v) :: fs).map (·.1)).Nodup) (hv : v.IsExact ∧ ReadsBack l v)
    (hfs : ∀ f ∈ fs, f.2.IsExact ∧ ReadsBack l f.2)
    (hfuel : (render l depth v).length + (renderFields l depth fs).length < fuel)
    (hroom : fieldLevels ((k, v) :: fs) ≤ room) :
    members fuel room before
      (encodeText l.ascii k ++ ':' :: (l.fieldGap ++
        (render l depth v ++ (renderFields l depth fs ++ tail)))) =
          .ok (.object (before ++ (k, v) :: fs), rest) := by
  obtain ⟨fuel, rfl⟩ := Nat.exists_eq_add_one.mpr (by omega : 0 < fuel)
  have hnew : k ∉ before.map (·.1) := by
    rw [List.map_append, List.nodup_append'] at hkeys
    exact fun hk => hkeys.2.2 hk (by simp)
  have hvalue : value fuel room (skipSpace (l.fieldGap ++
      (render l depth v ++ (renderFields l depth fs ++ tail)))) =
        .ok (v, renderFields l depth fs ++ tail) := by
    rw [fieldLevels] at hroom
    rw [skipSpace_rendered hl.fieldGap hv.1]
    exact hv.2 depth fuel room (by omega) (by omega) (endsNumber_renderFields l depth fs htail)
  cases fs with
  | nil =>
      rw [members_last hvalue hclose, Assoc.put_of_notMem hnew]
  | cons f fs =>
      obtain ⟨k', v'⟩ := f
      obtain ⟨(hv' : v'.IsExact ∧ ReadsBack l v'), hfs⟩ := List.forall_mem_cons.mp hfs
      have hcomma : skipSpace (renderFields l depth ((k', v') :: fs) ++ tail) =
          ',' :: ((l.itemGap ++ l.lineBreak depth) ++ (encodeText l.ascii k' ++ ':' ::
            (l.fieldGap ++ (render l depth v' ++ (renderFields l depth fs ++ tail))))) := by
        rw [renderFields_cons_append, skipSpace_cons (by decide)]
      have hquote := skipSpace_encodeText (isSpace_comma_gap hl depth) l.ascii k'
      have hlength : (render l depth v').length + (renderFields l depth fs).length <
          (renderFields l depth ((k', v') :: fs)).length := by
        simp [renderFields, Layout.comma]
        omega
      rw [fieldLevels] at hroom
      rw [members_next hvalue hcomma, hquote, Assoc.put_of_notMem hnew,
        members_rendered hl htail hclose (before ++ [(k, v)]) (by simpa using hkeys) hv' hfs
          (by omega) (by omega),
        List.append_assoc, List.singleton_append]

theorem value_text (ascii : Bool) (s : String) (fuel room : Nat) (rest : List Char) :
    value (fuel + 1) room (encodeText ascii s ++ rest) = .ok (.text s, rest) := by
  rw [encodeText_append, value, string_encoded]
  rfl

theorem value_toString {i : Int} (hi : Decimal.fitsDigits i) (fuel room : Nat) {rest : List Char}
    (hrest : EndsNumber rest) :
    value (fuel + 1) room ((toString i).toList ++ rest) = .ok (.int i, rest) := by
  obtain ⟨d, cs, hd, htext⟩ := exists_digit_of_toString i
  have hscalar := scalar_toString hi hrest
  have hmarks : ∀ c ∈ ['"', '[', '{'], isDigit c = false := by simp [isDigit]
  have hdigit : d ∉ ['"', '[', '{'] := fun hmark => ne_of_isDigit hd (hmarks d hmark) rfl
  rcases htext with htext | htext
  · rw [htext] at hscalar ⊢
    exact (value_scalar hdigit).trans hscalar
  · rw [htext] at hscalar ⊢
    exact (value_scalar (by decide)).trans hscalar

theorem exists_eq_succ {j : Json} (h : j.IsExact) {depth fuel : Nat}
    (hfuel : (render l depth j).length ≤ fuel) : ∃ n, fuel = n + 1 := by
  obtain ⟨c, cs, hrender, -⟩ := exists_render_eq_cons h l depth
  rw [hrender, List.length_cons] at hfuel
  exact Nat.exists_eq_add_one.mpr (by omega)

theorem value_empty_list {depth fuel room : Nat}
    (hfuel : (render l depth (.list [])).length ≤ fuel) (hroom : (list []).levels ≤ room)
    (rest : List Char) :
    value fuel room (render l depth (.list []) ++ rest) = .ok (.list [], rest) := by
  rw [levels] at hroom
  obtain ⟨fuel, rfl⟩ := exists_eq_succ (.list (by simp)) hfuel
  obtain ⟨room, rfl⟩ := Nat.exists_eq_add_one.mpr (by omega : 0 < room)
  simp [render, value, skipSpace_cons (by decide : isSpace ']' = false)]

theorem value_empty_object {depth fuel room : Nat}
    (hfuel : (render l depth (.object [])).length ≤ fuel) (hroom : (object []).levels ≤ room)
    (rest : List Char) :
    value fuel room (render l depth (.object []) ++ rest) = .ok (.object [], rest) := by
  rw [levels] at hroom
  obtain ⟨fuel, rfl⟩ := exists_eq_succ (.object (by simp) (by simp)) hfuel
  obtain ⟨room, rfl⟩ := Nat.exists_eq_add_one.mpr (by omega : 0 < room)
  simp [render, value, skipSpace_cons (by decide : isSpace '}' = false)]

theorem value_rendered_list (hl : l.IsBlank) {x : Json} {xs : List Json} {depth fuel room : Nat}
    (hexact : ∀ y ∈ x :: xs, y.IsExact) (hback : ∀ y ∈ x :: xs, ReadsBack l y)
    (hfuel : (render l depth (.list (x :: xs))).length ≤ fuel)
    (hroom : (list (x :: xs)).levels ≤ room) (rest : List Char) :
    value fuel room (render l depth (.list (x :: xs)) ++ rest) = .ok (.list (x :: xs), rest) := by
  rw [levels] at hroom
  obtain ⟨fuel, rfl⟩ := exists_eq_succ (.list hexact) hfuel
  obtain ⟨room, rfl⟩ := Nat.exists_eq_add_one.mpr (by omega : 0 < room)
  have hgap := isSpace_lineBreak l depth
  have htext : render l depth (.list (x :: xs)) ++ rest =
      '[' :: (l.lineBreak (depth + 1) ++ (render l (depth + 1) x ++
        (renderItems l (depth + 1) xs ++ (l.lineBreak depth ++ ']' :: rest)))) := by
    simp [render]
  have hlength : (render l (depth + 1) x).length + (renderItems l (depth + 1) xs).length <
      fuel := by
    simp [render] at hfuel
    omega
  have hskip := skipSpace_rendered (isSpace_lineBreak l (depth + 1)) (hexact x (by simp)) l
    (depth + 1) (renderItems l (depth + 1) xs ++ (l.lineBreak depth ++ ']' :: rest))
  obtain ⟨c, cs, hfirst, -, hc, -⟩ := exists_render_eq_cons (hexact x (by simp)) l (depth + 1)
  have hitems := items_rendered hl (endsNumber_gap hgap (by simp) rest)
    (skipSpace_closed hgap (by decide) rest) [] (hback x (by simp))
    (fun y hy => ⟨hexact y (by simp [hy]), hback y (by simp [hy])⟩) hlength
    (by omega : itemLevels (x :: xs) ≤ room)
  rw [htext]
  rw [hfirst, List.cons_append] at hskip hitems
  rw [hfirst, List.cons_append, value_list hc hskip, hitems, List.nil_append]

theorem value_rendered_object (hl : l.IsBlank) {k : String} {v : Json}
    {fs : List (String × Json)} {depth fuel room : Nat}
    (hkeys : (((k, v) :: fs).map (·.1)).Nodup) (hexact : ∀ f ∈ (k, v) :: fs, f.2.IsExact)
    (hback : ∀ f ∈ (k, v) :: fs, ReadsBack l f.2)
    (hfuel : (render l depth (.object ((k, v) :: fs))).length ≤ fuel)
    (hroom : (object ((k, v) :: fs)).levels ≤ room) (rest : List Char) :
    value fuel room (render l depth (.object ((k, v) :: fs)) ++ rest) =
      .ok (.object ((k, v) :: fs), rest) := by
  rw [levels] at hroom
  obtain ⟨fuel, rfl⟩ := exists_eq_succ (.object hkeys hexact) hfuel
  obtain ⟨room, rfl⟩ := Nat.exists_eq_add_one.mpr (by omega : 0 < room)
  have hgap := isSpace_lineBreak l depth
  have htext : render l depth (.object ((k, v) :: fs)) ++ rest =
      '{' :: (l.lineBreak (depth + 1) ++ (encodeText l.ascii k ++ ':' :: (l.fieldGap ++
        (render l (depth + 1) v ++
          (renderFields l (depth + 1) fs ++ (l.lineBreak depth ++ '}' :: rest)))))) := by
    simp [render]
  have hlength : (render l (depth + 1) v).length + (renderFields l (depth + 1) fs).length <
      fuel := by
    simp [render] at hfuel
    omega
  have hmembers := members_rendered hl (endsNumber_gap hgap (by simp) rest)
    (skipSpace_closed hgap (by decide) rest) [] (by simpa using hkeys)
    ⟨hexact (k, v) (by simp), hback (k, v) (by simp)⟩
    (fun f hf => ⟨hexact f (by simp [hf]), hback f (by simp [hf])⟩) hlength
    (by omega : fieldLevels ((k, v) :: fs) ≤ room)
  have hskip (cs : List Char) := (skipSpace_encodeText (isSpace_lineBreak l (depth + 1)) l.ascii k
    cs).trans (encodeText_append l.ascii k cs)
  rw [htext, value_object (by decide) (hskip _), ← encodeText_append, hmembers, List.nil_append]

theorem readsBack_of_isExact (hl : l.IsBlank) {j : Json} (h : j.IsExact) : ReadsBack l j := by
  induction h with
  | null =>
      intro depth fuel room rest hfuel _ _
      obtain ⟨fuel, rfl⟩ := exists_eq_succ .null hfuel
      exact (value_scalar (by decide)).trans (scalar_null rest)
  | bool b =>
      intro depth fuel room rest hfuel _ _
      obtain ⟨fuel, rfl⟩ := exists_eq_succ (.bool b) hfuel
      cases b with
      | true => exact (value_scalar (by decide)).trans (scalar_true rest)
      | false => exact (value_scalar (by decide)).trans (scalar_false rest)
  | int hi =>
      intro depth fuel room rest hfuel _ hrest
      obtain ⟨fuel, rfl⟩ := exists_eq_succ (.int hi) hfuel
      rw [render]
      exact value_toString hi fuel room hrest
  | text s =>
      intro depth fuel room rest hfuel _ _
      obtain ⟨fuel, rfl⟩ := exists_eq_succ (.text s) hfuel
      rw [render]
      exact value_text l.ascii s fuel room rest
  | @list items hitems ih =>
      intro depth fuel room rest hfuel hroom _
      cases items with
      | nil => exact value_empty_list hfuel hroom rest
      | cons x xs => exact value_rendered_list hl hitems ih hfuel hroom rest
  | @object fields hkeys hfields ih =>
      intro depth fuel room rest hfuel hroom _
      cases fields with
      | nil => exact value_empty_object hfuel hroom rest
      | cons f fs => exact value_rendered_object hl hkeys hfields ih hfuel hroom rest

end

end Reader

/-! ## Whole texts -/

theorem readWithin_render {l : Layout} (hl : l.IsBlank) {j : Json} (h : j.IsExact) {room : Nat}
    (hroom : j.levels ≤ room) : readWithin room (render l 0 j) = .ok j := by
  obtain ⟨c, cs, hrender, hspace, -, hmark⟩ := Reader.exists_render_eq_cons h l 0
  have hhead : (render l 0 j).head? ≠ some (Char.ofNat 0xFEFF) := by
    rw [hrender, List.head?_cons]
    exact fun hc => hmark (Option.some.inj hc)
  have hskip : Reader.skipSpace (render l 0 j) = render l 0 j := by
    rw [hrender, Reader.skipSpace_cons hspace]
  have hvalue := Reader.readsBack_of_isExact hl h 0 (2 * (render l 0 j).length + 1) room (by omega)
    hroom Reader.endsNumber_nil
  rw [List.append_nil] at hvalue
  rw [readWithin, if_neg hhead, hskip, hvalue]
  rfl

theorem readWithin_write {l : Layout} (hl : l.IsBlank) {j : Json} (h : j.IsExact) {room : Nat}
    (hroom : j.levels ≤ room) : readWithin room (write l j).toList = .ok j := by
  rw [write, String.toList_ofList]
  exact readWithin_render hl h hroom

end ConditionalForms.Json
