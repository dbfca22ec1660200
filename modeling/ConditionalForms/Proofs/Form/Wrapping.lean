import ConditionalForms.Form.RecordsFile
import ConditionalForms.Proofs.Form.Records

/-! # Rows behind edges

Rows come as a list of objects, or as the nodes of a response: far down in its data, behind edges,
and with every cell wrapped. Some edges may lead to no row at all. The rows that are read are the
same either way, one for each object in order, and so is the fault of an object that is no row.
-/

namespace ConditionalForms

/-! ## Ways down into a value -/

namespace Json

/-- The value under some keys, followed from object to object. -/
def under? : List String → Json → Option Json
  | [], j => some j
  | key :: keys, object fields => (Assoc.get? fields key).bind (under? keys)
  | _ :: _, _ => none

end Json

namespace Response

/-- The keys that lead from the data of a response to its edges. -/
def edgePath (objectName : String) : List String := ["uiapi", "query", objectName, "edges"]

/-- The member at the end of some keys. -/
def descend? (keys : List String) (j : Json) : Except Fault Json := keys.foldlM member? j

theorem edges?_eq (data : Json) (objectName : String) :
    edges? data objectName = descend? (edgePath objectName) data >>= elements? := by
  simp [edges?, descend?, edgePath]

theorem member?_of_get? {fields : List (String × Json)} {key : String} {v : Json}
    (h : Assoc.get? fields key = some v) : member? (.object fields) key = .ok v := by
  cases fields with
  | nil => cases h
  | cons field fields => simp [member?, Json.isTruthy, h]

theorem descend?_of_under? {keys : List String} {j v : Json} (h : Json.under? keys j = some v) :
    descend? keys j = .ok v := by
  induction keys generalizing j with
  | nil =>
      cases h
      rfl
  | cons key keys ih =>
      cases j with
      | object fields =>
          obtain ⟨inner, hinner, hv⟩ := Option.bind_eq_some_iff.mp h
          rw [descend?, List.foldlM_cons, member?_of_get? hinner, Fault.ok_bind]
          exact ih hv
      | _ => cases h

/-! ## Wrapped cells -/

/-- The cells of an object, each wrapped. -/
def wrap (fields : List (String × Json)) : List (String × Json) :=
  fields.map fun f => (f.1, .object [("value", f.2)])

/-- Unwrapping takes off one layer, whatever the cells look like. -/
@[simp] theorem unwrap_wrap (fields : List (String × Json)) : unwrap (wrap fields) = fields := by
  rw [unwrap, wrap, List.map_map]
  exact List.map_id fields

/-! ## Edges -/

/-- An edge that leads to no row: it counts as missing, or its node is missing or no object. -/
inductive Bare : Json → Prop where
  | missing {edge : Json} (h : ¬edge.isTruthy) : Bare edge
  | unnoded {fields : List (String × Json)}
      (h : ∀ node, Assoc.get? fields "node" ≠ some (.object node)) : Bare (.object fields)

/-- Edges that lead to some objects one after another, with bare edges anywhere among them. An edge
may hold more than its node. -/
inductive LeadTo : List Json → List (List (String × Json)) → Prop where
  | nil : LeadTo [] []
  | bare {edge : Json} {edges : List Json} {objects : List (List (String × Json))}
      (h : Bare edge) (hrest : LeadTo edges objects) : LeadTo (edge :: edges) objects
  | node {fields o : List (String × Json)} {edges : List Json}
      {objects : List (List (String × Json))}
      (h : Assoc.get? fields "node" = some (.object (wrap o))) (hrest : LeadTo edges objects) :
      LeadTo (.object fields :: edges) (o :: objects)

theorem Bare.exists_member? {edge : Json} (h : Bare edge) :
    ∃ node, member? edge "node" = .ok node ∧ ∀ fields, node ≠ .object fields := by
  cases h with
  | missing h => exact ⟨.null, by simp [member?, h], by simp⟩
  | @unnoded fields h =>
      cases hnode : Assoc.get? fields "node" with
      | none =>
          refine ⟨.null, ?_, by simp⟩
          simp [member?, hnode]
      | some node =>
          refine ⟨node, member?_of_get? hnode, ?_⟩
          rintro inner rfl
          exact h inner hnode

theorem edgeRows?_cons_of_bare {edge : Json} (h : Bare edge) (edges : List Json) :
    edgeRows? (edge :: edges) = edgeRows? edges := by
  obtain ⟨node, hmember, hnode⟩ := h.exists_member?
  simp only [edgeRows?, hmember, Fault.ok_bind]

/-- The rows behind edges are those of the objects that the edges lead to. -/
theorem edgeRows?_of_leadTo {edges : List Json} {objects : List (List (String × Json))}
    (h : LeadTo edges objects) :
    edgeRows? edges = objects.mapM fun o => Row.ofJson (.object o) := by
  induction h with
  | nil => rfl
  | bare h _ ih => rw [edgeRows?_cons_of_bare h, ih]
  | node h _ ih =>
      simp only [edgeRows?, member?_of_get? h, Fault.ok_bind, unwrap_wrap, ih, Fault.mapM_cons]
      rfl

theorem rows?_of_leadTo {objectName : String} {data : Json} {edges : List Json}
    {objects : List (List (String × Json))}
    (hdata : data.under? (edgePath objectName) = some (.list edges)) (h : LeadTo edges objects) :
    rows? data objectName = objects.mapM fun o => Row.ofJson (.object o) := by
  have helements : elements? (.list edges) = .ok edges := by
    rw [elements?]
    cases edges <;> rfl
  rw [rows?, edges?_eq, descend?_of_under? hdata, Fault.ok_bind, helements, Fault.ok_bind,
    edgeRows?_of_leadTo h]

end Response

/-! ## The same rows in a list -/

/-- A value of the wrong shape. -/
def Fault.IsInvalid (fault : Fault) : Prop := ∃ issues, fault = .invalid issues

theorem Row.returnsIff_ofJson (o : List (String × Json)) :
    Fault.ReturnsIff (Writable o) Fault.IsInvalid (ofJson (.object o)) := by
  by_cases h : Writable o
  · exact .of_returns h ⟨_, ofRecord_object_of_writable h⟩
  · exact .of_fault h ⟨_, ⟨_, rfl⟩, ofRecord_object_of_not_writable h⟩

namespace RecordsFile

theorem listRows?_objects (path : String) (index : Nat) (objects : List (List (String × Json))) :
    listRows? path index (objects.map .object) =
      objects.mapM fun o => Row.ofJson (.object o) := by
  induction objects generalizing index with
  | nil => rfl
  | cons o objects ih =>
      simp only [List.map_cons, listRows?, ih, Fault.mapM_cons]
      rfl

theorem contents?_objects (path objectName : String) (objects : List (List (String × Json))) :
    contents? path objectName (.list (objects.map .object)) =
      (objects.mapM fun o => Row.ofJson (.object o)).map (·, []) := by
  rw [contents?, listRows?_objects]

end RecordsFile

namespace Response

/-- The data of a response has the rows of a list of objects: one for each object in order, as a
file that lists the objects has them. Where a column of an object cannot be written, both stop at
the same fault, and it tells of an invalid value. -/
structure SharesRows (objectName : String) (data : Json)
    (objects : List (List (String × Json))) : Prop where
  in_order : rows? data objectName = objects.mapM fun o => Row.ofJson (.object o)
  listed : ∀ path, RecordsFile.contents? path objectName (.list (objects.map .object)) =
    (rows? data objectName).map (·, [])
  in_file : ∀ path file,
    RecordsFile.fileValue? path file = .ok (.list (objects.map .object)) →
      RecordsFile.load? path file objectName = (rows? data objectName).map (·, [])
  returns : Fault.ReturnsIff (∀ o ∈ objects, Row.Writable o) Fault.IsInvalid
    (rows? data objectName)

/-- Objects in a list and the same objects with wrapped cells behind edges have the same rows,
however many bare edges there are and wherever they stand. -/
theorem sharesRows_of_leadTo {objectName : String} {data : Json} {edges : List Json}
    {objects : List (List (String × Json))}
    (hdata : data.under? (edgePath objectName) = some (.list edges)) (h : LeadTo edges objects) :
    SharesRows objectName data objects := by
  have hrows := rows?_of_leadTo hdata h
  have hlisted (path : String) :
      RecordsFile.contents? path objectName (.list (objects.map .object)) =
        (rows? data objectName).map (·, []) := by
    rw [RecordsFile.contents?_objects, hrows]
  refine ⟨hrows, hlisted, ?_, ?_⟩
  · intro path file hfile
    rw [RecordsFile.load?, hfile, Fault.ok_bind, hlisted]
  · rw [hrows]
    exact .mapM fun o _ => Row.returnsIff_ofJson o

/-- An object with a cell that looks wrapped already, under both names of its column. -/
def lookalike : List (String × Json) :=
  [("Section__c", .object [("value", .text "Visit")]), ("section", .list [.int 7])]

def scatteredEdges : List Json := [
  .null,
  .object [("cursor", .text "a")],
  .object [("cursor", .text "b"), ("node", .object (wrap lookalike))],
  .object [("node", .null)],
  .object [("node", .text "lost")],
  .object [("node", .object [])],
  .null]

def scatteredData : Json :=
  .object [("uiapi", .object [("query", .object [("Inspection__mdt",
    .object [("edges", .list scatteredEdges)])])])]

def lookalikeRecords : String :=
  "[\x7b\"Section__c\": \x7b\"value\": \"Visit\"\x7d, \"section\": [7]\x7d, \x7b\x7d]"

theorem leadTo_scatteredEdges : LeadTo scatteredEdges [lookalike, []] := by
  have hcursor : Bare (.object [("cursor", .text "a")]) := .unnoded (by simp [Assoc.get?])
  have hnull : Bare (.object [("node", .null)]) := .unnoded (by simp [Assoc.get?])
  have htext : Bare (.object [("node", .text "lost")]) := .unnoded (by simp [Assoc.get?])
  have hmissing : Bare .null := .missing (by decide)
  exact .bare hmissing (.bare hcursor (.node rfl (.bare hnull (.bare htext (.node rfl
    (.bare hmissing .nil))))))

theorem sharesRows_of_leadTo_scattered :
    scatteredData.under? (edgePath "Inspection__mdt") = some (.list scatteredEdges) ∧
      LeadTo scatteredEdges [lookalike, []] ∧
      SharesRows "Inspection__mdt" scatteredData [lookalike, []] ∧
      RecordsFile.load? "rows.json" (.bytes lookalikeRecords.toByteArray.data.toList)
        "Inspection__mdt" = .ok ([{ sectionName := some "\x7b'value': 'Visit'\x7d" }, {}], []) := by
  have hdata : scatteredData.under? (edgePath "Inspection__mdt") = some (.list scatteredEdges) :=
    rfl
  have hshares := sharesRows_of_leadTo hdata leadTo_scatteredEdges
  have hfile : RecordsFile.fileValue? "rows.json"
      (.bytes lookalikeRecords.toByteArray.data.toList) =
        .ok (.list [.object lookalike, .object []]) := rfl
  refine ⟨hdata, leadTo_scatteredEdges, hshares, ?_⟩
  rw [hshares.in_file _ _ hfile, hshares.in_order]
  rfl

end Response

end ConditionalForms
