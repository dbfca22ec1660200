import ConditionalForms.Files
import ConditionalForms.Number.Decimal
import ConditionalForms.Proofs.Fault.Returning
import ConditionalForms.Proofs.Text.Encoding

/-! # Complaints and other faults

A part of the system that reads a file is to complain about the file when it cannot be used. Callers
are prepared for that and for nothing else, so every other fault ends what they do. Whether a file
can lead to one is told by the bytes of the file, and by what is made of its text.
-/

namespace ConditionalForms

namespace Fault

variable {α : Type}

/-- A complaint of a part of the system about a source. -/
def Complains (concern : Concern) (source : String) : Fault → Prop
  | .complaint c => c.concern = concern ∧ c.source = some source
  | _ => False

/-- A result that callers are prepared for: a value, or a complaint about the source. -/
def Documented (concern : Concern) (source : String) (x : Except Fault α) : Prop :=
  ∀ fault, x = .error fault → Complains concern source fault

/-- Callers are prepared for a result exactly under a condition, and any other fault that they meet
is of one kind. -/
structure DocumentedIff (p : Prop) (concern : Concern) (source : String) (kind : Fault → Prop)
    (x : Except Fault α) : Prop where
  documented : Documented concern source x ↔ p
  faults : ∀ fault, x = .error fault → Complains concern source fault ∨ kind fault

variable {p q : Prop} {concern : Concern} {source : String} {kind kind' : Fault → Prop}
  {x : Except Fault α}

theorem documented_ok (a : α) : Documented concern source (.ok a : Except Fault α) := by
  rintro fault ⟨⟩

theorem documented_error_iff {fault : Fault} :
    Documented concern source (.error fault : Except Fault α) ↔ Complains concern source fault :=
  ⟨fun h => h fault rfl, fun h _ heq => Except.error.inj heq ▸ h⟩

namespace Documented

variable {β : Type}

theorem bind {f : α → Except Fault β} (hx : Documented concern source x)
    (hf : ∀ a, Documented concern source (f a)) : Documented concern source (x >>= f) := by
  cases x with
  | error fault => exact documented_error_iff.mpr (hx fault rfl)
  | ok a => exact hf a

theorem map (hx : Documented concern source x) (f : α → β) :
    Documented concern source (x.map f) := by
  cases x with
  | error fault => exact documented_error_iff.mpr (hx fault rfl)
  | ok a => exact documented_ok (f a)

end Documented

namespace DocumentedIff

theorem of_documented (hp : p) (h : Documented concern source x) :
    DocumentedIff p concern source kind x :=
  ⟨iff_of_true h hp, fun fault hfault => .inl (h fault hfault)⟩

theorem of_complaint {fault : Fault} (hp : p) (h : Complains concern source fault) :
    DocumentedIff p concern source kind (.error fault : Except Fault α) :=
  .of_documented hp (documented_error_iff.mpr h)

theorem of_fault {fault : Fault} (hp : ¬p) (hfault : ¬Complains concern source fault)
    (hkind : kind fault) :
    DocumentedIff p concern source kind (.error fault : Except Fault α) := by
  refine ⟨iff_of_false (mt documented_error_iff.mp hfault) hp, ?_⟩
  rintro fault' ⟨⟩
  exact .inr hkind

theorem complains_of (h : DocumentedIff p concern source kind x) (hp : p) {fault : Fault}
    (hfault : x = .error fault) : Complains concern source fault :=
  h.documented.mpr hp fault hfault

/-- Without the condition there is a fault, and it is no complaint. -/
theorem exists_fault (h : DocumentedIff p concern source kind x) (hp : ¬p) :
    ∃ fault, x = .error fault ∧ ¬Complains concern source fault ∧ kind fault := by
  have hundocumented := mt h.documented.mp hp
  cases x with
  | ok a => exact absurd (documented_ok a) hundocumented
  | error fault =>
      have hfault := mt documented_error_iff.mpr hundocumented
      exact ⟨fault, rfl, hfault, (h.faults fault rfl).resolve_left hfault⟩

theorem mono (h : DocumentedIff p concern source kind x)
    (hkind : ∀ fault, kind fault → kind' fault) : DocumentedIff p concern source kind' x :=
  ⟨h.documented, fun fault hfault => (h.faults fault hfault).imp_right (hkind fault)⟩

/-- A computation without complaints returns, or meets a fault that nobody is prepared for. -/
theorem of_returnsIff (h : ReturnsIff p kind x) (hkind : ∀ fault, kind fault →
    ¬Complains concern source fault) : DocumentedIff p concern source kind x := by
  refine ⟨?_, fun fault hfault => .inr (h.faults fault hfault)⟩
  rw [← h.returns]
  constructor
  · intro hdocumented
    cases x with
    | ok a => exact ⟨a, rfl⟩
    | error fault => exact absurd (hdocumented fault rfl) (hkind fault (h.faults fault rfl))
  · rintro ⟨a, rfl⟩
    exact documented_ok a

end DocumentedIff

/-- The fault of a file whose text cannot be had: its path is no path, or its bytes are no text. -/
def IsUndecoded : Fault → Prop
  | .file .nullCharacter _ | .undecodable _ => True
  | _ => False

/-- The fault of a reader at one of its limits. -/
def IsLimit : Fault → Prop
  | .integerTooLong digits => Decimal.digitLimit < digits
  | .nestedTooDeeply _ => True
  | _ => False

theorem IsLimit.not_complains {fault : Fault} (h : fault.IsLimit) :
    ¬Complains concern source fault := by
  cases fault with
  | complaint c => exact absurd h id
  | _ => exact id

end Fault

namespace FileState

/-- A file that is not there, is a directory, or has the bytes of a text with some property of the
text as it is read. -/
def Sound (p : List Char → Prop) : FileState → Prop
  | .absent problem => problem ≠ .nullCharacter
  | .directory => True
  | .bytes content =>
    ∃ written, content = Text.Utf8.encode written ∧ p (Text.Utf8.joinLineEnds written)

variable {α : Type} {p : List Char → Prop} {concern : Concern} {source : String}
  {kind : Fault → Prop} {unreadable : FileProblem → Fault} {f : List Char → Except Fault α}

/-- What is made of a file is documented for sound files alone, when it is so for the texts that
have the property. -/
theorem documentedIff_text? (file : FileState)
    (hunreadable : ∀ problem, (unreadable problem).Complains concern source)
    (hf : ∀ cs, Fault.DocumentedIff (p cs) concern source kind (f cs)) :
    Fault.DocumentedIff (file.Sound p) concern source
      (fun fault => fault.IsUndecoded ∨ kind fault) (file.text? unreadable >>= f) := by
  cases file with
  | absent problem =>
      by_cases hproblem : problem = .nullCharacter
      · subst hproblem
        exact .of_fault (fun h => h rfl) (fun h => h) (.inl trivial)
      · have htext : (absent problem).text? unreadable = .error (unreadable problem) := by
          cases problem with
          | nullCharacter => exact absurd rfl hproblem
          | _ => rfl
        rw [htext]
        exact .of_complaint hproblem (hunreadable problem)
  | directory => exact .of_complaint trivial (hunreadable .directory)
  | bytes content =>
      cases hread : Text.Utf8.readText content with
      | error e =>
          have hsound : ¬(bytes content).Sound p := by
            rintro ⟨written, hwritten, -⟩
            cases hread.symm.trans (Text.Utf8.readText_eq_ok_iff.mpr ⟨written, hwritten, rfl⟩)
          simp only [text?, hread, Fault.error_bind]
          exact .of_fault hsound (fun h => h) (.inl trivial)
      | ok cs =>
          have hsound : (bytes content).Sound p ↔ p cs := by
            constructor
            · rintro ⟨written, hwritten, hp⟩
              have hcs := Text.Utf8.readText_eq_ok_iff.mpr ⟨written, hwritten, rfl⟩
              rwa [← Except.ok.inj (hcs.symm.trans hread)]
            · intro hp
              obtain ⟨written, hwritten, rfl⟩ := Text.Utf8.readText_eq_ok_iff.mp hread
              exact ⟨written, hwritten, hp⟩
          simp only [text?, hread, Fault.ok_bind]
          exact ⟨(hf cs).documented.trans hsound.symm,
            fun fault hfault => ((hf cs).faults fault hfault).imp_right .inr⟩

end FileState

end ConditionalForms
