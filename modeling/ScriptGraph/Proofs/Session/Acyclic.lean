import ScriptGraph.Proofs.Session.Agreement

/-!
# Reachable graphs have no cycles

An expression is put together by following edges backwards, and nothing but the shape of the graph
stops it.  So no operation may close a cycle, whatever it is given: a document or a fragment is read
edge by edge, and the edge that would close one is passed over like any other that is refused.

`Reachable.acyclic` says so about paths.  Here it is put in terms of the search that a connection
makes before it is drawn (`acyclic_iff_reaches`), and tried on a fragment whose edges run in a ring.
-/

namespace ScriptGraph

open Relation

variable {K : NodeKind → Prop}

namespace Graph

/-- A graph has no cycle exactly when the search finds no way back along any of its edges. -/
theorem acyclic_iff_reaches {g : Graph} :
    Acyclic g.edges ↔ ∀ e ∈ g.edges, g.reaches e.target.node e.source.node = false := by
  constructor
  · intro hacyclic e he
    by_contra hfound
    have hback : Path g.edges e.target.node e.source.node :=
      reaches_eq_true_iff.mp (Bool.eq_true_of_not_eq_false hfound)
    exact hacyclic _ (TransGen.head' ⟨e, he, rfl, rfl⟩ hback)
  · intro hreaches a hcycle
    -- the first edge of a cycle is one that the rest of it leads back along
    obtain ⟨b, ⟨e, he, rfl, rfl⟩, hback⟩ := TransGen.head'_iff.mp hcycle
    have hfound : g.reaches e.target.node e.source.node = true := reaches_eq_true_iff.mpr hback
    rw [hreaches e he] at hfound
    cases hfound

theorem Reachable.paste {g : Graph} (h : g.Reachable K) {f : Fragment} {palette : Palette}
    {offset : Position} {ids : IdSource} {pasted : Fragment.Pasted}
    (hkinds : ∀ entry ∈ f.nodes, ∀ kind, palette.get? entry.tag = some kind → K kind)
    (hpaste : (f.paste palette g offset ids).outcome = .ok pasted)
    (hfresh : g.Fresh ids pasted.ids) : pasted.graph.Reachable K := by
  obtain ⟨loose, hrun⟩ := h
  exact ⟨loose, hrun.tail (.paste _ hkinds hpaste hfresh)⟩

/-- The edges of a graph that a session can come to form no cycle, so the search finds no way back
along any of them. -/
theorem reachable_edges_acyclic {g : Graph} (h : g.Reachable K) :
    Acyclic g.edges ∧ ∀ e ∈ g.edges, g.reaches e.target.node e.source.node = false := by
  have hacyclic : Acyclic g.edges := h.acyclic
  exact ⟨hacyclic, acyclic_iff_reaches.mp hacyclic⟩

/-- Two greetings, each of which comes after the other. -/
def ring : Fragment :=
  let greeting : FragmentNode := ⟨NodeKind.echo.tag, "Greeting", .origin, ∅⟩
  { nodes := [greeting, greeting], edges := [⟨0, 0, 1, 0⟩, ⟨1, 0, 0, 0⟩] }

/-- Identifiers that have not been counted to yet. -/
def laterIds : IdSource := { IdSource.counting with drawn := 100 }

theorem sample_fresh {later : IdSource} (hlater : later.drawn ≤ 200) :
    sample.Fresh laterIds later where
  distinct i j _ hij hj heq := by
    have hnat := congrArg (fun id : Uuid => id.bits.toNat) heq
    simp only [laterIds, IdSource.counting, BitVec.toNat_ofNat] at hnat
    omega
  unused i hi hj hmem := by
    have hcounted : ∀ e ∈ sample.edges, e.id.uuid.bits.toNat < 100 := by decide
    obtain ⟨e, he, hid⟩ := List.mem_map.mp hmem
    have hlt := hcounted e he
    have hlow : 100 ≤ i := hi
    rw [hid] at hlt
    simp only [laterIds, IdSource.counting, BitVec.toNat_ofNat] at hlt
    omega

/-- The ring is pasted without the edge that would close it. -/
theorem ring_pasted_acyclic :
    ∃ pasted, (ring.paste .standard sample .origin laterIds).outcome = .ok pasted ∧
      (pasted.graph.Reachable fun _ => True) ∧
      pasted.graph.edges.length = sample.edges.length + 1 ∧
      Acyclic pasted.graph.edges ∧
      ∀ e ∈ pasted.graph.edges, pasted.graph.reaches e.target.node e.source.node = false := by
  refine ⟨_, rfl, ?_⟩
  have hsample : sample.Reachable fun _ => True := sample_reachable fun _ _ => trivial
  have hpaste : (ring.paste .standard sample .origin laterIds).outcome = .ok _ := rfl
  have hreach := hsample.paste (fun _ _ _ _ => trivial) hpaste (sample_fresh (by decide))
  obtain ⟨hacyclic, hreaches⟩ := reachable_edges_acyclic hreach
  exact ⟨hreach, rfl, hacyclic, hreaches⟩

end Graph

end ScriptGraph
