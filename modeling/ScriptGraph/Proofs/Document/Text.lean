import ScriptGraph.Proofs.Json.Record
import ScriptGraph.Proofs.Json.Value
import ScriptGraph.Proofs.Session.Agreement
import ScriptGraph.Proofs.Uuid
import ScriptGraph.Workspace

/-!
# Documents and fragments are read back from their texts

The text of a document and the text of a fragment, laid out over lines or without white space, are
read back as the document and the fragment that were written (`texts_read_back`).  Trees are read
back from their texts (`Json.Tree.Writable.ofText?_render`), so each record only has to be read back
from its tree, field by field, and its tree has to be one that can be written.

What is assumed of a single floating-point number is that its decimal is read back as the number:
for the coordinates of nodes (`Position.Readable`) and for the numbers in comments
(`Json.Value.Readable`).  It holds of no infinity and no NaN, which are written as null.
-/

namespace ScriptGraph

open Json

/-! ## Identifiers, names and values -/

theorem Uuid.ofTree?_toTree (u : Uuid) : ofTree? u.toTree = some u := by
  rw [ofTree?, toTree, text?_text, Option.bind_some, ofText?_text]

theorem Uuid.writable_toTree (u : Uuid) : u.toTree.Writable := writable_text u.text

theorem NodeId.ofTree?_toTree (id : NodeId) : ofTree? id.uuid.toTree = some id := by
  rw [ofTree?, Uuid.ofTree?_toTree, Option.map_some]

theorem PortId.ofTree?_toTree (id : PortId) : ofTree? id.uuid.toTree = some id := by
  rw [ofTree?, Uuid.ofTree?_toTree, Option.map_some]

theorem EdgeId.ofTree?_toTree (id : EdgeId) : ofTree? id.uuid.toTree = some id := by
  rw [ofTree?, Uuid.ofTree?_toTree, Option.map_some]

theorem PortType.ofTree?_toTree (type : PortType) : ofTree? type.toTree = some type :=
  ofWireName?_wireName type

theorem PropertyValue.ofTree?_toTree (v : PropertyValue) : ofTree? v.toTree = some v := by
  cases v with
  | bool b => rfl
  | int i =>
      have hlow : -0x8000000000000000 ≤ i.toInt := i.le_toInt
      have hhigh : i.toInt ≤ 0x7fffffffffffffff := i.toInt_le
      have hmax : (maxSignificand : Int) = 0xffffffffffffffff := by decide
      change (Numeral.ofInt i.toInt).toInt?.bind ofInt? = _
      rw [Numeral.toInt?_ofInt hlow (by omega), Option.bind_some, ofInt?, if_pos ⟨hlow, hhigh⟩,
        Int64.ofInt_toInt]
  | text s => rfl

theorem PropertyValue.writable_toTree (v : PropertyValue) : v.toTree.Writable := by
  cases v with
  | bool b => exact .bool b
  | int i => exact .number (Numeral.valid_ofInt _)
  | text s => exact .string s

theorem Properties.ofTree?_toTree (p : Properties) : ofTree? (toTree p) = some p := by
  have hentries : (p.entries.map fun entry => (some entry.1, entry.2.toTree)).mapM entry? =
      some p.entries := by
    apply mapM_map
    intro entry _
    unfold entry?
    rw [PropertyValue.ofTree?_toTree]
  rw [toTree, Tree.fields, List.map_map]
  change ((p.entries.map fun entry => (some entry.1, entry.2.toTree)).mapM entry?).map _ = _
  rw [hentries, Option.map_some, Table.ofList_entries]

theorem Properties.writable_toTree (p : Properties) : (toTree p).Writable := by
  apply writable_fields
  intro member hmember
  obtain ⟨⟨key, value⟩, -, rfl⟩ := List.mem_map.mp hmember
  exact value.writable_toTree

/-- Properties that are absent are written as null. -/
theorem Properties.nullable?_toTree (p : Option Properties) :
    Tree.nullable? ofTree? ((p.map toTree).getD .null) = some p := by
  cases p with
  | none => rfl
  | some p =>
      change (ofTree? (toTree p)).map some = _
      rw [ofTree?_toTree, Option.map_some]

/-- Both coordinates are read back from their decimals. -/
structure Position.Readable (p : Position) : Prop where
  x : Tree.single? (.ofSingle p.x) = some p.x
  y : Tree.single? (.ofSingle p.y) = some p.y

instance (p : Position) : Decidable p.Readable :=
  decidable_of_iff
    (Tree.single? (.ofSingle p.x) = some p.x ∧ Tree.single? (.ofSingle p.y) = some p.y)
    ⟨fun h => ⟨h.1, h.2⟩, fun h => ⟨h.x, h.y⟩⟩

/-! ## Records -/

theorem PortRecord.ofTree?_toTree (r : PortRecord) : ofTree? r.toTree = some r := by
  obtain ⟨fields, hrecord, hentries⟩ :=
    exists_record (rfl : r.toTree = .fields _) (by decide : fieldNames.Nodup) rfl
  have hid : required? fields "id" PortId.ofTree? = some r.id :=
    required?_of_mem (by simp [hentries]) r.id.ofTree?_toTree
  have hname : required? fields "name" Tree.text? = some r.name :=
    required?_of_mem (by simp [hentries]) (text?_text r.name)
  have htype : required? fields "type" PortType.ofTree? = some r.type :=
    required?_of_mem (by simp [hentries]) r.type.ofTree?_toTree
  simp only [ofTree?, hrecord, hid, hname, htype, Option.bind_eq_bind, Option.bind_some]
  rfl

theorem PortRecord.writable_toTree (r : PortRecord) : r.toTree.Writable := by
  apply writable_fields
  simp [Uuid.writable_toTree, writable_text, PortType.toTree]

theorem NodeRecord.ofTree?_toTree {r : NodeRecord} (hposition : r.position.Readable) :
    ofTree? r.toTree = some r := by
  obtain ⟨fields, hrecord, hentries⟩ :=
    exists_record (rfl : r.toTree = .fields _) (by decide : fieldNames.Nodup) rfl
  have hid : required? fields "id" NodeId.ofTree? = some r.id :=
    required?_of_mem (by simp [hentries]) r.id.ofTree?_toTree
  have htag : required? fields "type" Tree.text? = some r.tag :=
    required?_of_mem (by simp [hentries]) (text?_text r.tag)
  have htitle : required? fields "title" Tree.text? = some r.title :=
    required?_of_mem (by simp [hentries]) (text?_text r.title)
  have hx : required? fields "x" Tree.single? = some r.position.x :=
    required?_of_mem (by simp [hentries]) hposition.x
  have hy : required? fields "y" Tree.single? = some r.position.y :=
    required?_of_mem (by simp [hentries]) hposition.y
  have hproperties : optional? fields "properties" none (Tree.nullable? Properties.ofTree?) =
      some r.properties :=
    optional?_of_mem none (by simp [hentries]) (Properties.nullable?_toTree r.properties)
  have hinputs : optional? fields "inputs" [] (Tree.list? PortRecord.ofTree?) = some r.inputs :=
    optional?_of_mem [] (by simp [hentries]) (list?_map fun p _ => p.ofTree?_toTree)
  have houtputs : optional? fields "outputs" [] (Tree.list? PortRecord.ofTree?) = some r.outputs :=
    optional?_of_mem [] (by simp [hentries]) (list?_map fun p _ => p.ofTree?_toTree)
  simp only [ofTree?, hrecord, hid, htag, htitle, hx, hy, hproperties, hinputs, houtputs,
    Option.bind_eq_bind, Option.bind_some]
  rfl

theorem NodeRecord.writable_toTree (r : NodeRecord) : r.toTree.Writable := by
  have hproperties : ((r.properties.map Properties.toTree).getD .null).Writable := by
    cases r.properties with
    | none => exact .null
    | some p => exact Properties.writable_toTree p
  have hports (ports : List PortRecord) : (Tree.array (ports.map PortRecord.toTree)).Writable :=
    writable_array fun p _ => p.writable_toTree
  apply writable_fields
  simp [Uuid.writable_toTree, writable_text, writable_ofSingle, hproperties, hports]

theorem EdgeRecord.ofTree?_toTree (r : EdgeRecord) : ofTree? r.toTree = some r := by
  obtain ⟨fields, hrecord, hentries⟩ :=
    exists_record (rfl : r.toTree = .fields _) (by decide : fieldNames.Nodup) rfl
  have hid : required? fields "id" EdgeId.ofTree? = some r.id :=
    required?_of_mem (by simp [hentries]) r.id.ofTree?_toTree
  have hsource : required? fields "source" PortId.ofTree? = some r.source :=
    required?_of_mem (by simp [hentries]) r.source.ofTree?_toTree
  have htarget : required? fields "target" PortId.ofTree? = some r.target :=
    required?_of_mem (by simp [hentries]) r.target.ofTree?_toTree
  simp only [ofTree?, hrecord, hid, hsource, htarget, Option.bind_eq_bind, Option.bind_some]
  rfl

theorem EdgeRecord.writable_toTree (r : EdgeRecord) : r.toTree.Writable := by
  apply writable_fields
  simp [Uuid.writable_toTree]

/-! ## Documents -/

namespace Document

/-- The coordinates of all nodes are read back, and the comments nest no deeper than a reader
follows them. -/
structure Readable (d : Document) : Prop where
  positions : ∀ r ∈ d.nodes, r.position.Readable
  comments : ∀ v ∈ d.comments, v.Readable commentDepth

variable {d : Document}

theorem Readable.ofTree?_toTree (h : d.Readable) : ofTree? d.toTree = some d := by
  obtain ⟨fields, hrecord, hentries⟩ :=
    exists_record (rfl : d.toTree = .fields _) (by decide : fieldNames.Nodup) rfl
  have hversion : required? fields "version" Tree.text? = some d.version :=
    required?_of_mem (by simp [hentries]) (text?_text d.version)
  have hnodes : required? fields "nodes" (Tree.list? NodeRecord.ofTree?) = some d.nodes :=
    required?_of_mem (by simp [hentries])
      (list?_map fun r hr => NodeRecord.ofTree?_toTree (h.positions r hr))
  have hedges : required? fields "edges" (Tree.list? EdgeRecord.ofTree?) = some d.edges :=
    required?_of_mem (by simp [hentries]) (list?_map fun r _ => r.ofTree?_toTree)
  have hcomments : optional? fields "comments" [] (Tree.list? (Tree.toValue? commentDepth)) =
      some d.comments :=
    optional?_of_mem [] (by simp [hentries])
      (list?_map fun v hv => (h.comments v hv).toValue?_toTree)
  simp only [ofTree?, hrecord, hversion, hnodes, hedges, hcomments, Option.bind_eq_bind,
    Option.bind_some]
  rfl

theorem Readable.writable_toTree (h : d.Readable) : d.toTree.Writable := by
  have hnodes : (Tree.array (d.nodes.map NodeRecord.toTree)).Writable :=
    writable_array fun r _ => r.writable_toTree
  have hedges : (Tree.array (d.edges.map EdgeRecord.toTree)).Writable :=
    writable_array fun r _ => r.writable_toTree
  have hcomments : (Tree.array (d.comments.map Value.toTree)).Writable :=
    writable_array fun v hv => Value.writable_toTree (h.comments v hv)
  apply writable_fields
  simp [writable_text, hnodes, hedges, hcomments]

theorem Readable.ofText?_render (h : d.Readable) {layout : Layout} (hlayout : layout.Blank) :
    ofText? (d.toTree.render layout) = some d := by
  rw [ofText?, h.writable_toTree.ofText?_render hlayout, Option.bind_some, h.ofTree?_toTree]

end Document

/-! ## Fragments -/

/-- The four places are numbers of 64 bits. -/
structure FragmentEdge.Readable (e : FragmentEdge) : Prop where
  sourceNode : e.sourceNode < UInt64.size
  sourceOutput : e.sourceOutput < UInt64.size
  targetNode : e.targetNode < UInt64.size
  targetInput : e.targetInput < UInt64.size

theorem FragmentNode.ofTree?_toTree {n : FragmentNode} (hposition : n.position.Readable) :
    ofTree? n.toTree = some n := by
  obtain ⟨fields, hrecord, hentries⟩ :=
    exists_record (rfl : n.toTree = .fields _) (by decide : fieldNames.Nodup) rfl
  have htag : required? fields "type" Tree.text? = some n.tag :=
    required?_of_mem (by simp [hentries]) (text?_text n.tag)
  have htitle : required? fields "title" Tree.text? = some n.title :=
    required?_of_mem (by simp [hentries]) (text?_text n.title)
  have hx : required? fields "x" Tree.single? = some n.position.x :=
    required?_of_mem (by simp [hentries]) hposition.x
  have hy : required? fields "y" Tree.single? = some n.position.y :=
    required?_of_mem (by simp [hentries]) hposition.y
  have hproperties : required? fields "properties" Properties.ofTree? = some n.properties :=
    required?_of_mem (by simp [hentries]) (Properties.ofTree?_toTree n.properties)
  simp only [ofTree?, hrecord, htag, htitle, hx, hy, hproperties, Option.bind_eq_bind,
    Option.bind_some]
  rfl

theorem FragmentNode.writable_toTree (n : FragmentNode) : n.toTree.Writable := by
  apply writable_fields
  simp [writable_text, writable_ofSingle, Properties.writable_toTree]

theorem FragmentEdge.ofTree?_toTree {e : FragmentEdge} (h : e.Readable) :
    ofTree? e.toTree = some e := by
  obtain ⟨fields, hrecord, hentries⟩ :=
    exists_record (rfl : e.toTree = .fields _) (by decide : fieldNames.Nodup) rfl
  have hsourceNode : required? fields "source_node" Tree.nat? = some e.sourceNode :=
    required?_of_mem (by simp [hentries]) (nat?_ofNat h.sourceNode)
  have hsourceOutput : required? fields "source_output_index" Tree.nat? = some e.sourceOutput :=
    required?_of_mem (by simp [hentries]) (nat?_ofNat h.sourceOutput)
  have htargetNode : required? fields "target_node" Tree.nat? = some e.targetNode :=
    required?_of_mem (by simp [hentries]) (nat?_ofNat h.targetNode)
  have htargetInput : required? fields "target_input_index" Tree.nat? = some e.targetInput :=
    required?_of_mem (by simp [hentries]) (nat?_ofNat h.targetInput)
  simp only [ofTree?, hrecord, hsourceNode, hsourceOutput, htargetNode, htargetInput,
    Option.bind_eq_bind, Option.bind_some]
  rfl

theorem FragmentEdge.writable_toTree (e : FragmentEdge) : e.toTree.Writable := by
  apply writable_fields
  simp [writable_ofNat]

namespace Fragment

/-- The coordinates of all nodes are read back, and the places are numbers of 64 bits. -/
structure Readable (f : Fragment) : Prop where
  positions : ∀ n ∈ f.nodes, n.position.Readable
  places : ∀ e ∈ f.edges, e.Readable

variable {f : Fragment}

theorem Readable.ofTree?_toTree (h : f.Readable) : ofTree? f.toTree = some f := by
  obtain ⟨fields, hrecord, hentries⟩ :=
    exists_record (rfl : f.toTree = .fields _) (by decide : fieldNames.Nodup) rfl
  have hnodes : required? fields "nodes" (Tree.list? FragmentNode.ofTree?) = some f.nodes :=
    required?_of_mem (by simp [hentries])
      (list?_map fun n hn => FragmentNode.ofTree?_toTree (h.positions n hn))
  have hedges : required? fields "edges" (Tree.list? FragmentEdge.ofTree?) = some f.edges :=
    required?_of_mem (by simp [hentries])
      (list?_map fun e he => FragmentEdge.ofTree?_toTree (h.places e he))
  simp only [ofTree?, hrecord, hnodes, hedges, Option.bind_eq_bind, Option.bind_some]
  rfl

theorem writable_toTree (f : Fragment) : f.toTree.Writable := by
  have hnodes : (Tree.array (f.nodes.map FragmentNode.toTree)).Writable :=
    writable_array fun n _ => n.writable_toTree
  have hedges : (Tree.array (f.edges.map FragmentEdge.toTree)).Writable :=
    writable_array fun e _ => e.writable_toTree
  apply writable_fields
  simp [hnodes, hedges]

theorem Readable.ofText?_render (h : f.Readable) {layout : Layout} (hlayout : layout.Blank) :
    ofText? (f.toTree.render layout) = some f := by
  rw [ofText?, f.writable_toTree.ofText?_render hlayout, Option.bind_some, h.ofTree?_toTree]

end Fragment

/-! ## Texts -/

/-- **Texts are read back as what they were written from.**  A document is read back from its text
over lines and from its text without white space, and so is a fragment.  So opening the text of a
saved graph is opening its document. -/
theorem texts_read_back {d : Document} (hd : d.Readable) {f : Fragment} (hf : f.Readable) :
    Document.ofText? d.text = some d ∧ Document.ofText? d.toTree.compact = some d ∧
    Fragment.ofText? f.text = some f ∧ Fragment.ofText? f.toTree.indented = some f ∧
    ∀ (g : Graph) (comments : List Value) (w : Workspace), d = .ofGraph g comments →
      (Document.ofText? (Document.ofGraph g comments).text).map w.load =
        some (w.load (.ofGraph g comments)) := by
  have htext : Document.ofText? d.text = some d := hd.ofText?_render Layout.blank_indented
  refine ⟨htext, hd.ofText?_render Layout.blank_compact, hf.ofText?_render Layout.blank_compact,
    hf.ofText?_render Layout.blank_indented, ?_⟩
  rintro g comments w rfl
  rw [htext, Option.map_some]

/-- A document with properties of every type and with none, comments inside each other, and texts
that have to be escaped. -/
def Document.mixed : Document where
  version := "0.9 \"draft\""
  nodes :=
    [{ id := ⟨⟨7⟩⟩, tag := "echo", title := "C:\\temp\t\x01", position := ⟨100.5, -0.1⟩
       properties := some ⟨[("flag", .bool true), ("least", .int Int64.minValue),
         ("say \"é\"", .text "\x1f\n\x7f")], by decide⟩
       inputs := [⟨⟨⟨8⟩⟩, "", .exec⟩], outputs := [⟨⟨⟨9⟩⟩, "/", .string⟩] },
     { id := ⟨⟨10⟩⟩, tag := "", title := "", position := ⟨3.4028235e38, 1e-45⟩ },
     { id := ⟨⟨11⟩⟩, tag := "start", title := "∅", position := ⟨0, -0⟩, properties := some ∅ }]
  edges := [⟨⟨⟨12⟩⟩, ⟨⟨9⟩⟩, ⟨⟨8⟩⟩⟩]
  comments := [.dict [("", .float 0.1), ("box", .list [.int (-1), .null, .dict []])]]

theorem Document.mixed_readable : mixed.Readable where
  positions := by decide +kernel
  comments := by
    have hfloat : (Value.float 0.1).Readable 124 := .float (by decide +kernel)
    have hint : (Value.int (-1)).Readable 123 := .int (by decide) (by decide)
    have hempty : (Value.dict []).Readable 123 := .dict (by simp) (by simp)
    have hlist : (Value.list [.int (-1), .null, .dict []]).Readable 124 :=
      .list (by simp [hint, hempty, Value.Readable.null])
    have hbox : (Value.dict [("", .float 0.1), ("box", .list [.int (-1), .null, .dict []])]).Readable
        commentDepth := .dict (List.pairwise_pair.mpr (by decide)) (by simp [hfloat, hlist])
    simp [mixed, hbox]

/-- A fragment with the greatest place that 64 bits hold. -/
def Fragment.mixed : Fragment where
  nodes := [{ tag := "if", title := "a\\b", position := ⟨-0.1, 0⟩, properties := ∅ }]
  edges := [⟨0, 18446744073709551615, 1, 0⟩]

theorem Fragment.mixed_readable : mixed.Readable where
  positions := by decide +kernel
  places := by
    have hedge : (⟨0, 18446744073709551615, 1, 0⟩ : FragmentEdge).Readable :=
      ⟨by decide, by decide, by decide, by decide⟩
    simp [mixed, hedge]

theorem texts_read_back_mixed :
    Document.mixed.Readable ∧ Fragment.mixed.Readable ∧
    Document.ofText? Document.mixed.text = some .mixed ∧
    Document.ofText? Document.mixed.toTree.compact = some .mixed ∧
    Fragment.ofText? Fragment.mixed.text = some .mixed ∧
    Fragment.ofText? Fragment.mixed.toTree.indented = some .mixed ∧
    (Document.ofGraph .sample [.null]).Readable ∧
    ∀ w : Workspace, (Document.ofText? (Document.ofGraph .sample [.null]).text).map w.load =
      some (w.load (.ofGraph .sample [.null])) := by
  have hsample : (Document.ofGraph .sample [.null]).Readable :=
    ⟨by decide +kernel, by simp [Document.ofGraph, Value.Readable.null]⟩
  obtain ⟨htext, hcompact, hfragment, hindented, -⟩ :=
    texts_read_back Document.mixed_readable Fragment.mixed_readable
  refine ⟨Document.mixed_readable, Fragment.mixed_readable, htext, hcompact, hfragment, hindented,
    hsample, fun w => ?_⟩
  exact (texts_read_back hsample Fragment.mixed_readable).2.2.2.2 .sample [.null] w rfl

end ScriptGraph
