import ScriptGraph.Proofs.Emit.Layout

/-!
# Every statement is written once

A compilation asks each node that control can come to for its statement once, and no other node.
Which nodes these are is said by `Drawing.Walked`: the definitions of functions, what the first
start and the definitions drive, and whatever `Drawing.Follows` one of them.

That no node comes twice is an argument about all of the drawing.  Control comes to a node from one
output (`Regular.driver_unique`), so of two nodes upstream of a third one is upstream of the other
(`Regular.comparable`), and what lies downstream of two different outputs is disjoint unless one of
them lies downstream of the other (`Regular.downstream_disjoint`).  Within a tree of
statements the outputs belong to one node, and between trees they belong to roots that nothing
drives.
-/

namespace ScriptGraph.Drawing

open Relation

variable {D : Drawing}

/-! ## Where control goes -/

/-- What control goes on at after a statement, one entry for each output that counts. -/
def continuations (D : Drawing) (n : Node) : Behaviour → List (Option Node)
  | .branch =>
    if (D.guard? n).isSome then [D.next? n "True", D.next? n "False", D.next? n "Next"]
    else [D.next? n "Next"]
  | .forEach => [D.next? n "Loop Body", D.next? n "Next"]
  | .repeatWhile =>
    if (D.guard? n).isSome then [D.next? n "Body", D.next? n "Next"] else [D.next? n "Next"]
  | .define | .custom _ => []
  | _ => [D.successor? n]

/-- Control goes on from one node to another. -/
def Follows (D : Drawing) (n m : Node) : Prop :=
  ∃ behaviour, D.behaviour? n = some behaviour ∧ some m ∈ D.continuations n behaviour

/-- The nodes that have a place in the script. -/
inductive Walked (D : Drawing) : Node → Prop
  | definition {n : Node} : n ∈ D.graph.nodes → n.tag = NodeKind.function.tag → Walked D n
  | main {start m : Node} : D.graph.start? = some start → D.successor? start = some m → Walked D m
  | body {n m : Node} : n ∈ D.graph.nodes → n.tag = NodeKind.function.tag →
      D.next? n "Exec" = some m → Walked D m
  | step {n m : Node} : Walked D n → D.Follows n m → Walked D m

theorem continuations_plain {n : Node} {behaviour : Behaviour}
    (hplain : behaviour.isPlain = true) : D.continuations n behaviour = [D.successor? n] := by
  cases behaviour <;> first | rfl | cases hplain

/-- Control goes on at outlets of the behaviour, or at the successor. -/
theorem mem_continuations {n m : Node} {behaviour : Behaviour}
    (hmem : some m ∈ D.continuations n behaviour) :
    D.successor? n = some m ∨ ∃ output ∈ behaviour.outlets, D.next? n output = some m := by
  have hsub : D.continuations n behaviour ⊆
      D.successor? n :: behaviour.outlets.map (D.next? n) := by
    unfold continuations
    split
    case h_1 | h_3 => split <;> simp [Behaviour.outlets]
    all_goals simp [Behaviour.outlets]
  rcases List.mem_cons.mp (hsub hmem) with hsuccessor | houtlet
  · exact Or.inl hsuccessor.symm
  · exact Or.inr (List.mem_map.mp houtlet)

/-- From a node control comes to the node itself and to whatever it comes to from a continuation. -/
theorem reaches_iff {n x : Node} {behaviour : Behaviour}
    (hbehaviour : D.behaviour? n = some behaviour) :
    ReflTransGen D.Follows n x ↔
      x = n ∨ ∃ m, some m ∈ D.continuations n behaviour ∧ ReflTransGen D.Follows m x := by
  rw [ReflTransGen.cases_head_iff, eq_comm]
  simp [Follows, hbehaviour]

/-- An output without an edge drives nothing. -/
theorem next?_eq_none (hwf : D.graph.WellFormed) {n : Node} (hn : n ∈ D.graph.nodes)
    {output : String} (hfree : outputConnected n output = false) : D.next? n output = none := by
  refine Option.eq_none_iff_forall_ne_some.mpr fun m hm => ?_
  obtain ⟨p, hp, hfirst⟩ := ((alongEdges hwf).next?_eq_some_iff n hn output m).mp hm
  obtain ⟨-, e, he, hsource, -⟩ := hfirst.exists_edge
  have hconnected := ((alongEdges hwf).outputConnected_iff n hn output).mpr ⟨p, hp, e, he, hsource⟩
  rw [hfree] at hconnected
  cases hconnected

/-- The nodes of a tree are those that control comes to along its chain. -/
theorem Chain.mem_nodes_iff (hwf : D.graph.WellFormed) {target : Option Node} {S : Statements}
    (hchain : D.Chain target S) (hmem : ∀ m, target = some m → m ∈ D.graph.nodes) {x : Node} :
    x ∈ S.nodes ↔ ∃ m, target = some m ∧ ReflTransGen D.Follows m x := by
  induction hchain with
  | stop => simp [Statements.nodes]
  | plain hbehaviour hplain _ ihRest =>
      have hn := hmem _ rfl
      have hrest := ihRest fun m hm => (leads_of_successor? hwf hn hm).1
      simp [Statements.nodes, reaches_iff hbehaviour, continuations_plain hplain, hrest, eq_comm]
  | skip hbehaviour hcases hguard _ ihRest =>
      have hn := hmem _ rfl
      have hrest := ihRest fun m hm => (leads_of_next? hwf hn hm).1
      simp only [List.mem_cons, List.not_mem_nil, or_false] at hcases
      rcases hcases with rfl | rfl
      · simp [Statements.nodes, reaches_iff hbehaviour, continuations, hguard, hrest, eq_comm]
      · simp [Statements.nodes, reaches_iff hbehaviour, continuations, hguard, hrest, eq_comm]
  | branch hbehaviour hguard hfalse _ _ ihYes ihRest =>
      have hn := hmem _ rfl
      have hyes := ihYes fun m hm => (leads_of_next? hwf hn hm).1
      have hrest := ihRest fun m hm => (leads_of_next? hwf hn hm).1
      -- without an `else` the output for it still counts, but drives nothing
      simp [Statements.nodes, reaches_iff hbehaviour, continuations, hguard,
        next?_eq_none hwf hn hfalse, hyes, hrest, eq_comm, or_and_right, exists_or]
  | branchElse hbehaviour hguard hfalse _ _ _ ihYes ihNo ihRest =>
      have hn := hmem _ rfl
      have hyes := ihYes fun m hm => (leads_of_next? hwf hn hm).1
      have hno := ihNo fun m hm => (leads_of_next? hwf hn hm).1
      have hrest := ihRest fun m hm => (leads_of_next? hwf hn hm).1
      simp [Statements.nodes, reaches_iff hbehaviour, continuations, hguard, hyes, hno, hrest,
        eq_comm, or_and_right, exists_or]
  | forEach hbehaviour _ _ ihBody ihRest =>
      have hn := hmem _ rfl
      have hbody := ihBody fun m hm => (leads_of_next? hwf hn hm).1
      have hrest := ihRest fun m hm => (leads_of_next? hwf hn hm).1
      simp [Statements.nodes, reaches_iff hbehaviour, continuations, hbody, hrest, eq_comm,
        or_and_right, exists_or]
  | repeatWhile hbehaviour hguard _ _ ihBody ihRest =>
      have hn := hmem _ rfl
      have hbody := ihBody fun m hm => (leads_of_next? hwf hn hm).1
      have hrest := ihRest fun m hm => (leads_of_next? hwf hn hm).1
      simp [Statements.nodes, reaches_iff hbehaviour, continuations, hguard, hbody, hrest, eq_comm,
        or_and_right, exists_or]

theorem Walked.of_reaches {n x : Node} (hn : D.Walked n) (hreach : ReflTransGen D.Follows n x) :
    D.Walked x := by
  induction hreach with
  | refl => exact hn
  | tail _ hstep ih => exact ih.step hstep

/-- An output of one node of the drawing drives the other. -/
def Flow (D : Drawing) (n m : Node) : Prop :=
  n ∈ D.graph.nodes ∧ ∃ p, D.Drives n p m

namespace Regular

variable (h : D.Regular) {n m x : Node}
include h

theorem flow_of_follows (hn : n ∈ D.graph.nodes) (hfollows : D.Follows n m) : D.Flow n m := by
  obtain ⟨behaviour, hbehaviour, hmem⟩ := hfollows
  refine ⟨hn, ?_⟩
  rcases mem_continuations hmem with hsuccessor | ⟨output, houtlet, hnext⟩
  · exact drives_of_successor? hsuccessor
  · obtain ⟨p, hdrives, -⟩ := h.drives_of_next? hn hbehaviour houtlet hnext
    exact ⟨p, hdrives⟩

theorem mem_nodes_of_flow (hflow : D.Flow n m) : m ∈ D.graph.nodes := by
  obtain ⟨hn, p, hdrives⟩ := hflow
  exact (h.wellFormed.leads_of_execTarget? hn hdrives.mem_outputs hdrives.target).1

theorem flow_of_reaches (hn : n ∈ D.graph.nodes) (hreach : ReflTransGen D.Follows n x) :
    x ∈ D.graph.nodes ∧ ReflTransGen D.Flow n x := by
  induction hreach with
  | refl => exact ⟨hn, .refl⟩
  | tail _ hstep ih =>
      have hflow := h.flow_of_follows ih.1 hstep
      exact ⟨h.mem_nodes_of_flow hflow, ih.2.tail hflow⟩

/-! ## What lies downstream of different outputs -/

/-- Control does not come back to where it was. -/
theorem not_flow_back (hflow : TransGen D.Flow n n) : False := by
  refine h.acyclic n.id (hflow.lift Node.id fun a b hab => ?_)
  obtain ⟨ha, p, hdrives⟩ := hab
  exact (h.wellFormed.leads_of_execTarget? ha hdrives.mem_outputs hdrives.target).2

/-- Of two nodes upstream of a third, one is upstream of the other. -/
theorem comparable (hn : ReflTransGen D.Flow n x) (hm : ReflTransGen D.Flow m x) :
    ReflTransGen D.Flow n m ∨ ReflTransGen D.Flow m n := by
  -- the way upstream does not fork, so two ways up from one node are parts of one
  have hunique : Relator.RightUnique (Function.swap D.Flow) := by
    rintro c a b ⟨ha, p, hp⟩ ⟨hb, q, hq⟩
    exact (h.driver_unique ha hb hp hq).1
  rcases ReflTransGen.total_of_right_unique hunique hn.swap hm.swap with hback | hback
  · exact Or.inr hback.swap
  · exact Or.inl hback.swap

/-- A node downstream of what an output drives is not what another output drives, if the node of
that output does not lie downstream. -/
theorem not_downstream {n' m' : Node} {p p' : Port} (hn : n ∈ D.graph.nodes)
    (hn' : n' ∈ D.graph.nodes) (hdrives : D.Drives n p m) (hdrives' : D.Drives n' p' m')
    (hapart : ¬ ReflTransGen D.Flow m n') (hne : ¬ (n = n' ∧ p = p')) :
    ¬ ReflTransGen D.Flow m m' := by
  intro hreach
  rcases ReflTransGen.cases_tail hreach with rfl | ⟨last, hlast, hmem, q, hq⟩
  · exact hne (h.driver_unique hn hn' hdrives hdrives')
  · obtain ⟨rfl, -⟩ := h.driver_unique hmem hn' hq hdrives'
    exact hapart hlast

/-- What lies downstream of two different outputs is disjoint, unless the node of one lies
downstream of the other. -/
theorem downstream_disjoint {n' m' : Node} {p p' : Port} (hn : n ∈ D.graph.nodes)
    (hn' : n' ∈ D.graph.nodes) (hdrives : D.Drives n p m) (hdrives' : D.Drives n' p' m')
    (hapart : ¬ ReflTransGen D.Flow m n') (hapart' : ¬ ReflTransGen D.Flow m' n)
    (hne : ¬ (n = n' ∧ p = p')) (hm : ReflTransGen D.Flow m x) :
    ¬ ReflTransGen D.Flow m' x := by
  intro hm'
  rcases h.comparable hm hm' with hreach | hreach
  · exact h.not_downstream hn hn' hdrives hdrives' hapart hne hreach
  · exact h.not_downstream hn' hn hdrives' hdrives hapart'
      (fun heq => hne ⟨heq.1.symm, heq.2.symm⟩) hreach

/-! ## Within a tree of statements -/

/-- Control comes to the nodes of a tree from the node that its chain begins at. -/
theorem flow_of_mem_nodes {target : Option Node} {S : Statements} (hchain : D.Chain target S)
    (hflow : ∀ m, target = some m → D.Flow n m) (hx : x ∈ S.nodes) :
    ∃ m, target = some m ∧ ReflTransGen D.Flow m x := by
  have hmem : ∀ m, target = some m → m ∈ D.graph.nodes :=
    fun m hm => h.mem_nodes_of_flow (hflow m hm)
  obtain ⟨m, hm, hreach⟩ := (hchain.mem_nodes_iff h.wellFormed hmem).mp hx
  exact ⟨m, hm, (h.flow_of_reaches (hmem m hm) hreach).2⟩

theorem notMem_nodes {target : Option Node} {S : Statements} (hchain : D.Chain target S)
    (hflow : ∀ m, target = some m → D.Flow n m) : n ∉ S.nodes := by
  intro hx
  obtain ⟨m, hm, hreach⟩ := h.flow_of_mem_nodes hchain hflow hx
  exact h.not_flow_back (TransGen.head' (hflow m hm) hreach)

/-- A statement with parts at different outputs has no node twice if the parts, which begin at
driven nodes, have none. -/
theorem nodup_of_parts (hn : n ∈ D.graph.nodes) {behaviour : Behaviour}
    (hbehaviour : D.behaviour? n = some behaviour) (parts : List (String × Statements))
    (hdistinct : (parts.map Prod.fst).Nodup)
    (hparts : ∀ part ∈ parts, part.1 ∈ behaviour.outlets ∧ D.Chain (D.next? n part.1) part.2 ∧
      ((∀ m, D.next? n part.1 = some m → D.Driven m) → part.2.nodes.Nodup)) :
    (n :: parts.flatMap fun part => part.2.nodes).Nodup := by
  have hdrives : ∀ part ∈ parts, ∀ m, D.next? n part.1 = some m →
      ∃ p, D.Drives n p m ∧ p.name = part.1 :=
    fun part hpart m hm => h.drives_of_next? hn hbehaviour (hparts part hpart).1 hm
  have hflow : ∀ part ∈ parts, ∀ m, D.next? n part.1 = some m → D.Flow n m := by
    intro part hpart m hm
    obtain ⟨p, hp, -⟩ := hdrives part hpart m hm
    exact ⟨hn, p, hp⟩
  rw [List.nodup_cons, List.nodup_flatMap]
  refine ⟨?_, fun part hpart => (hparts part hpart).2.2 fun m hm => ?_, ?_⟩
  · rw [List.mem_flatMap]
    rintro ⟨part, hpart, hmem⟩
    exact h.notMem_nodes (hparts part hpart).2.1 (hflow part hpart) hmem
  · exact ⟨n, hflow part hpart m hm⟩
  · -- two parts begin at different outputs, neither of which lies downstream of the other
    refine (List.pairwise_map.mp hdistinct).imp_of_mem fun {part other} hpart hother hne => ?_
    intro x hx hx'
    obtain ⟨m, hm, hreach⟩ := h.flow_of_mem_nodes (hparts part hpart).2.1 (hflow part hpart) hx
    obtain ⟨m', hm', hreach'⟩ :=
      h.flow_of_mem_nodes (hparts other hother).2.1 (hflow other hother) hx'
    obtain ⟨p, hp, hname⟩ := hdrives part hpart m hm
    obtain ⟨p', hp', hname'⟩ := hdrives other hother m' hm'
    refine h.downstream_disjoint hn hn hp hp' ?_ ?_ ?_ hreach hreach'
    · exact fun hback => h.not_flow_back (TransGen.head' (hflow part hpart m hm) hback)
    · exact fun hback => h.not_flow_back (TransGen.head' (hflow other hother m' hm') hback)
    · rintro ⟨-, rfl⟩
      exact hne (hname.symm.trans hname')

/-- No node comes twice in a tree. -/
theorem nodes_nodup {target : Option Node} {S : Statements} (hchain : D.Chain target S)
    (hdriven : ∀ m, target = some m → D.Driven m) : S.nodes.Nodup := by
  induction hchain with
  | stop => exact List.nodup_nil
  | @plain n behaviour rest hbehaviour hplain hrest ihRest =>
      have hn := (hdriven n rfl).mem_nodes h.wellFormed
      refine List.nodup_cons.mpr ⟨h.notMem_nodes hrest fun m hm => ?_, ihRest fun m hm => ?_⟩
      · exact ⟨hn, drives_of_successor? hm⟩
      · exact (h.driven_of_successor? hn hm).1
  | @skip n behaviour rest hbehaviour hcases hguard hrest ihRest =>
      have hn := (hdriven n rfl).mem_nodes h.wellFormed
      have houtlet : "Next" ∈ behaviour.outlets := by
        simp only [List.mem_cons, List.not_mem_nil, or_false] at hcases
        rcases hcases with rfl | rfl <;> decide
      have hparts := h.nodup_of_parts hn hbehaviour [("Next", rest)] (List.nodup_singleton _)
        (List.forall_mem_singleton.mpr ⟨houtlet, hrest, ihRest⟩)
      simpa [Statements.nodes] using hparts
  | @branch n condition yes rest hbehaviour hguard hfalse hyes hrest ihYes ihRest =>
      have hn := (hdriven n rfl).mem_nodes h.wellFormed
      have hparts := h.nodup_of_parts hn hbehaviour [("True", yes), ("Next", rest)] (by simp)
        (List.forall_mem_cons.mpr ⟨⟨by simp [Behaviour.outlets], hyes, ihYes⟩,
          List.forall_mem_singleton.mpr ⟨by simp [Behaviour.outlets], hrest, ihRest⟩⟩)
      simpa [Statements.nodes] using hparts
  | @branchElse n condition yes no rest hbehaviour hguard hfalse hyes hno hrest ihYes ihNo ihRest =>
      have hn := (hdriven n rfl).mem_nodes h.wellFormed
      have hparts := h.nodup_of_parts hn hbehaviour [("True", yes), ("False", no), ("Next", rest)]
        (by simp)
        (List.forall_mem_cons.mpr ⟨⟨by simp [Behaviour.outlets], hyes, ihYes⟩,
          List.forall_mem_cons.mpr ⟨⟨by simp [Behaviour.outlets], hno, ihNo⟩,
            List.forall_mem_singleton.mpr ⟨by simp [Behaviour.outlets], hrest, ihRest⟩⟩⟩)
      simpa [Statements.nodes] using hparts
  | @forEach n body rest hbehaviour hbody hrest ihBody ihRest =>
      have hn := (hdriven n rfl).mem_nodes h.wellFormed
      have hparts := h.nodup_of_parts hn hbehaviour [("Loop Body", body), ("Next", rest)]
        (by simp)
        (List.forall_mem_cons.mpr ⟨⟨by simp [Behaviour.outlets], hbody, ihBody⟩,
          List.forall_mem_singleton.mpr ⟨by simp [Behaviour.outlets], hrest, ihRest⟩⟩)
      simpa [Statements.nodes] using hparts
  | @repeatWhile n condition body rest hbehaviour hguard hbody hrest ihBody ihRest =>
      have hn := (hdriven n rfl).mem_nodes h.wellFormed
      have hparts := h.nodup_of_parts hn hbehaviour [("Body", body), ("Next", rest)] (by simp)
        (List.forall_mem_cons.mpr ⟨⟨by simp [Behaviour.outlets], hbody, ihBody⟩,
          List.forall_mem_singleton.mpr ⟨by simp [Behaviour.outlets], hrest, ihRest⟩⟩)
      simpa [Statements.nodes] using hparts

/-! ## Between trees -/

/-- Nothing downstream of a driven node is a start or the definition of a function. -/
theorem not_root_of_downstream (hflow : D.Flow n m) (hreach : ReflTransGen D.Flow m x) :
    x.tag ∉ [Graph.startTag, NodeKind.function.tag] := by
  rcases ReflTransGen.cases_tail hreach with rfl | ⟨last, -, hlast, q, hq⟩
  · obtain ⟨hn, p, hp⟩ := hflow
    exact h.not_root_of_drives hn hp
  · exact h.not_root_of_drives hlast hq

/-- A tree that something drives contains no start and no definition of a function. -/
theorem root_notMem_nodes {target : Option Node} {S : Statements} (hchain : D.Chain target S)
    (hflow : ∀ m, target = some m → D.Flow n m)
    (hroot : x.tag ∈ [Graph.startTag, NodeKind.function.tag]) : x ∉ S.nodes := by
  intro hx
  obtain ⟨m, hm, hreach⟩ := h.flow_of_mem_nodes hchain hflow hx
  exact h.not_root_of_downstream (hflow m hm) hreach hroot

/-- The trees that begin at different roots have no node in common. -/
theorem roots_disjoint {root root' : Node} {target target' : Option Node} {S S' : Statements}
    (hroot : root.tag ∈ [Graph.startTag, NodeKind.function.tag])
    (hroot' : root'.tag ∈ [Graph.startTag, NodeKind.function.tag]) (hne : root ≠ root')
    (hchain : D.Chain target S) (hflow : ∀ m, target = some m → D.Flow root m)
    (hchain' : D.Chain target' S') (hflow' : ∀ m, target' = some m → D.Flow root' m) :
    S.nodes.Disjoint S'.nodes := by
  intro x hx hx'
  obtain ⟨m, hm, hreach⟩ := h.flow_of_mem_nodes hchain hflow hx
  obtain ⟨m', hm', hreach'⟩ := h.flow_of_mem_nodes hchain' hflow' hx'
  have hfirst := hflow m hm
  have hfirst' := hflow' m' hm'
  obtain ⟨hmem, p, hp⟩ := hflow m hm
  obtain ⟨hmem', p', hp'⟩ := hflow' m' hm'
  refine h.downstream_disjoint hmem hmem' hp hp' ?_ ?_ (fun heq => hne heq.1) hreach hreach'
  · exact fun hback => h.not_root_of_downstream hfirst hback hroot'
  · exact fun hback => h.not_root_of_downstream hfirst' hback hroot

theorem tag_of_mem_hoisted (hn : n ∈ D.hoisted) : n.tag = NodeKind.function.tag := by
  rw [h.hoisted_eq, List.mem_filter, beq_iff_eq] at hn
  exact hn.2

theorem root_of_mem_hoisted (hn : n ∈ D.hoisted) :
    n.tag ∈ [Graph.startTag, NodeKind.function.tag] := by
  simp [h.tag_of_mem_hoisted hn]

theorem flow_of_body (hn : n ∈ D.hoisted) (hm : D.next? n "Exec" = some m) : D.Flow n m := by
  obtain ⟨hmem, hbehaviour⟩ := h.behaviour?_of_mem_hoisted hn
  obtain ⟨p, hp, -⟩ := h.drives_of_next? hmem hbehaviour (List.mem_singleton_self _) hm
  exact ⟨hmem, p, hp⟩

/-- A definition goes on nowhere by itself. -/
theorem not_follows_of_hoisted (hn : n ∈ D.hoisted) : ¬ D.Follows n m := by
  rintro ⟨behaviour, hbehaviour, hmem⟩
  rw [(h.behaviour?_of_mem_hoisted hn).2] at hbehaviour
  obtain rfl := Option.some.inj hbehaviour
  cases hmem

omit h in
/-- The start that drives the first node of the main part. -/
theorem flow_of_first? (hm : D.first? = some m) :
    ∃ start, D.graph.start? = some start ∧ start.tag = Graph.startTag ∧
      D.successor? start = some m ∧ D.Flow start m := by
  obtain ⟨start, hstart, hnext⟩ := Option.bind_eq_some_iff.mp hm
  refine ⟨start, hstart, ?_, hnext, List.mem_of_find?_eq_some hstart, drives_of_successor? hnext⟩
  simpa using List.find?_some hstart

theorem mem_body_iff (hn : n ∈ D.hoisted) {body : Statements}
    (hbody : D.Chain (D.next? n "Exec") body) :
    x ∈ body.nodes ↔ ∃ m, D.next? n "Exec" = some m ∧ ReflTransGen D.Follows m x :=
  hbody.mem_nodes_iff h.wellFormed fun _ hm => h.mem_nodes_of_flow (h.flow_of_body hn hm)

theorem mem_main_iff {main : Statements} (hmain : D.Chain D.first? main) :
    x ∈ main.nodes ↔ ∃ m, D.first? = some m ∧ ReflTransGen D.Follows m x := by
  refine hmain.mem_nodes_iff h.wellFormed fun m hm => ?_
  obtain ⟨start, -, -, -, hflow⟩ := flow_of_first? hm
  exact h.mem_nodes_of_flow hflow

section

variable {main : Statements} {bodies : Node → Statements} (hmain : D.Chain D.first? main)
  (hbodies : ∀ n ∈ D.hoisted, D.Chain (D.next? n "Exec") (bodies n))
include hmain hbodies

/-- A definition has no node in common with the main part. -/
theorem body_disjoint_main (hn : n ∈ D.hoisted) :
    (n :: (bodies n).nodes).Disjoint main.nodes := by
  intro x hx hx'
  obtain ⟨m, hm, -⟩ := (h.mem_main_iff hmain).mp hx'
  obtain ⟨start, -, htag, -, hflow⟩ := flow_of_first? hm
  have hstart : ∀ m', D.first? = some m' → D.Flow start m' :=
    fun m' hm' => Option.some.inj (hm.symm.trans hm') ▸ hflow
  have hroot := h.root_of_mem_hoisted hn
  rcases List.mem_cons.mp hx with rfl | hx
  · exact h.root_notMem_nodes hmain hstart hroot hx'
  · have hne : n ≠ start := by
      rintro rfl
      rw [h.tag_of_mem_hoisted hn] at htag
      exact absurd htag (by decide)
    exact h.roots_disjoint hroot (by simp [htag]) hne (hbodies n hn)
      (fun m => h.flow_of_body hn) hmain hstart hx hx'

omit hmain in
/-- Two definitions have no node in common. -/
theorem bodies_disjoint {n' : Node} (hn : n ∈ D.hoisted) (hn' : n' ∈ D.hoisted) (hne : n ≠ n') :
    (n :: (bodies n).nodes).Disjoint (n' :: (bodies n').nodes) := by
  have hroot := h.root_of_mem_hoisted hn
  have hroot' := h.root_of_mem_hoisted hn'
  have hflow (m : Node) := h.flow_of_body (m := m) hn
  have hflow' (m : Node) := h.flow_of_body (m := m) hn'
  intro x hx hx'
  rcases List.mem_cons.mp hx with rfl | hx
  · rcases List.mem_cons.mp hx' with rfl | hx'
    · exact hne rfl
    · exact h.root_notMem_nodes (hbodies n' hn') hflow' hroot hx'
  · rcases List.mem_cons.mp hx' with rfl | hx'
    · exact h.root_notMem_nodes (hbodies n hn) hflow hroot' hx
    · exact h.roots_disjoint hroot hroot' hne (hbodies n hn) hflow (hbodies n' hn') hflow' hx hx'

/-- No node comes twice in the functions and the main part. -/
theorem script_nodes_nodup :
    (D.hoisted.flatMap (fun n => n :: (bodies n).nodes) ++ main.nodes).Nodup := by
  have hhoisted : D.hoisted.Nodup := h.wellFormed.nodes_distinct.of_map.filter _
  rw [List.nodup_append, List.nodup_flatMap]
  refine ⟨⟨fun n hn => ?_, ?_⟩, ?_, ?_⟩
  · have hflow (m : Node) := h.flow_of_body (m := m) hn
    refine List.nodup_cons.mpr ⟨h.notMem_nodes (hbodies n hn) hflow, ?_⟩
    exact h.nodes_nodup (hbodies n hn) fun m hm => ⟨n, hflow m hm⟩
  · exact hhoisted.imp_of_mem fun hn hn' hne => h.bodies_disjoint hbodies hn hn' hne
  · refine h.nodes_nodup hmain fun m hm => ?_
    obtain ⟨start, -, -, -, hflow⟩ := flow_of_first? hm
    exact ⟨start, hflow⟩
  · rintro x hx _ hx' rfl
    obtain ⟨n, hn, hx⟩ := List.mem_flatMap.mp hx
    exact h.body_disjoint_main hmain hbodies hn hx hx'

/-- The nodes of the functions and the main part are those that control comes to. -/
theorem mem_script_nodes_iff :
    x ∈ D.hoisted.flatMap (fun n => n :: (bodies n).nodes) ++ main.nodes ↔ D.Walked x := by
  rw [List.mem_append, List.mem_flatMap]
  constructor
  · rintro (⟨n, hn, hx⟩ | hx)
    · have hmem := (h.behaviour?_of_mem_hoisted hn).1
      have htag := h.tag_of_mem_hoisted hn
      rcases List.mem_cons.mp hx with rfl | hx
      · exact .definition hmem htag
      · obtain ⟨m, hm, hreach⟩ := (h.mem_body_iff hn (hbodies n hn)).mp hx
        exact (Walked.body hmem htag hm).of_reaches hreach
    · obtain ⟨m, hm, hreach⟩ := (h.mem_main_iff hmain).mp hx
      obtain ⟨start, hstart, -, hnext, -⟩ := flow_of_first? hm
      exact (Walked.main hstart hnext).of_reaches hreach
  · intro hx
    induction hx with
    | definition hn htag => exact Or.inl ⟨_, h.mem_hoisted hn htag, List.mem_cons_self⟩
    | @main start m hstart hnext =>
        have hfirst : D.first? = some m := by rw [first?, hstart, Option.bind_some, hnext]
        exact Or.inr ((h.mem_main_iff hmain).mpr ⟨m, hfirst, .refl⟩)
    | @body n m hn htag hnext =>
        have hn := h.mem_hoisted hn htag
        have hmem := (h.mem_body_iff hn (hbodies n hn)).mpr ⟨m, hnext, .refl⟩
        exact Or.inl ⟨n, hn, List.mem_cons_of_mem _ hmem⟩
    | @step n m _ hstep ih =>
        rcases ih with ⟨k, hk, hmem⟩ | hmem
        · rcases List.mem_cons.mp hmem with rfl | hmem
          · exact absurd hstep (h.not_follows_of_hoisted hk)
          · obtain ⟨first, hfirst, hreach⟩ := (h.mem_body_iff hk (hbodies k hk)).mp hmem
            have hmem' := (h.mem_body_iff hk (hbodies k hk)).mpr ⟨first, hfirst, hreach.tail hstep⟩
            exact Or.inl ⟨k, hk, List.mem_cons_of_mem _ hmem'⟩
        · obtain ⟨first, hfirst, hreach⟩ := (h.mem_main_iff hmain).mp hmem
          exact Or.inr ((h.mem_main_iff hmain).mpr ⟨first, hfirst, hreach.tail hstep⟩)

end

/-- Nodes that have a place in the script are nodes of the graph. -/
theorem mem_nodes_of_walked (hx : D.Walked x) : x ∈ D.graph.nodes := by
  induction hx with
  | definition hn _ => exact hn
  | main hstart hnext =>
      exact (leads_of_successor? h.wellFormed (List.mem_of_find?_eq_some hstart) hnext).1
  | body hn _ hnext => exact (leads_of_next? h.wellFormed hn hnext).1
  | step _ hstep ih => exact h.mem_nodes_of_flow (h.flow_of_follows ih hstep)

/-- No identifier comes twice in the functions and the main part. -/
theorem script_ids_nodup {main : Statements} {bodies : Node → Statements}
    (hmain : D.Chain D.first? main)
    (hbodies : ∀ n ∈ D.hoisted, D.Chain (D.next? n "Exec") (bodies n)) :
    ((D.hoisted.flatMap (fun n => n :: (bodies n).nodes) ++ main.nodes).map Node.id).Nodup := by
  refine (h.script_nodes_nodup hmain hbodies).map_on fun n hn m hm hid => ?_
  rw [h.mem_script_nodes_iff hmain hbodies] at hn hm
  exact h.wellFormed.node_unique (h.mem_nodes_of_walked hn) (h.mem_nodes_of_walked hm) hid

/-- What has a place in the script is the definition of a function or is driven. -/
theorem flow_of_walked (hx : D.Walked x) :
    x.tag = NodeKind.function.tag ∨ ∃ n, D.Flow n x := by
  cases hx with
  | definition _ htag => exact Or.inl htag
  | @main start _ hstart hnext =>
      exact Or.inr ⟨start, List.mem_of_find?_eq_some hstart, drives_of_successor? hnext⟩
  | @body n _ hn htag hnext =>
      exact Or.inr ⟨n, h.flow_of_body (h.mem_hoisted hn htag) hnext⟩
  | @step n _ hn hstep => exact Or.inr ⟨n, h.flow_of_follows (h.mem_nodes_of_walked hn) hstep⟩

/-- A statement that nothing leads to has no place in the script. -/
theorem not_walked_of_detached (hx : x ∈ D.graph.detachedStatements) : ¬ D.Walked x := by
  intro hwalked
  obtain ⟨hmem, hany⟩ := List.mem_filter.mp hx
  obtain ⟨q, hq, hfree⟩ := List.any_eq_true.mp hany
  rw [Bool.and_eq_true, beq_iff_eq, Bool.not_eq_true'] at hfree
  rcases h.flow_of_walked hwalked with htag | ⟨n, hn, p, hp⟩
  · rw [h.inputs_of_root hmem (by simp [htag])] at hq
    cases hq
  · rw [h.exec_input_connected hn hp hq hfree.1] at hfree
    cases hfree.2

end Regular

/-! ## The nodes that a compilation asks -/

/-- Compiling a drawing made with the standard palette asks every node that has a place in the
script for its statement once, and no other node; it never comes back to a node that it is inside
of, the functions and the main part share no statement, and detached statements are left out.
Control comes to a node along the edges of the graph. -/
theorem each_statement_once {g : Graph} (h : g.Reachable Palette.standard.Has) (config : Config) :
    let D : Drawing := ⟨g, .standard⟩
    let asked := (D.draft config).asked
    let inFunctions := (D.writeFunctions { width := config.indentWidth.toNat }).asked
    asked.Nodup ∧
    (∀ id, id ∈ asked ↔ ∃ n ∈ g.nodes, n.id = id ∧ D.Walked n) ∧
    (∀ title node, .revisited title node ∉ (D.compile config).notices) ∧
    (∃ inMain, asked = inFunctions ++ inMain ∧ inFunctions.Disjoint inMain) ∧
    (∀ n ∈ g.detachedStatements, n.id ∉ asked) ∧
    D.AlongEdges := by
  intro D asked inFunctions
  have hreg : D.Regular := regular_of_reachable h
  obtain ⟨main, bodies, hmain, hbodies⟩ := hreg.exists_statements
  obtain ⟨-, -, hasked, warnings, hwarnings, -⟩ := hreg.draft_eq hmain hbodies config
  have hfunctions : inFunctions =
      (D.hoisted.flatMap fun n => n :: (bodies n).nodes).map Node.id :=
    (hreg.hoists_writeFunctions hbodies rfl).asked_eq
  have hparts : asked = inFunctions ++ main.nodes.map Node.id := by
    rw [hfunctions, ← List.map_append, ← hasked]
  have hwalked : ∀ id, id ∈ asked ↔ ∃ n ∈ g.nodes, n.id = id ∧ D.Walked n := by
    intro id
    simp only [asked, hasked, List.mem_map, hreg.mem_script_nodes_iff hmain hbodies]
    constructor
    · rintro ⟨n, hn, hid⟩
      exact ⟨n, hreg.mem_nodes_of_walked hn, hid, hn⟩
    · rintro ⟨n, -, hid, hn⟩
      exact ⟨n, hn, hid⟩
  have hnodup : asked.Nodup := by
    have hids := hreg.script_ids_nodup hmain hbodies
    rwa [← hasked] at hids
  refine ⟨hnodup, hwalked, fun title node hmem => ?_, ⟨_, hparts, ?_⟩, fun n hn hmem => ?_,
    alongEdges hreg.wellFormed⟩
  · change _ ∈ (D.draft config).notices at hmem
    rw [hwarnings] at hmem
    obtain ⟨_, -, heq⟩ := List.mem_map.mp hmem
    cases heq
  · rw [hparts] at hnodup
    exact List.disjoint_of_nodup_append hnodup
  · obtain ⟨m, hm, hid, hmWalked⟩ := (hwalked n.id).mp hmem
    obtain rfl := hreg.wellFormed.node_unique hm (List.mem_of_mem_filter hn) hid
    exact hreg.not_walked_of_detached hn hmWalked

theorem each_statement_once_sample :
    let D : Drawing := ⟨.sample, .standard⟩
    Graph.sample.Reachable Palette.standard.Has ∧
    (D.draft {}).asked = [18, 20, 2, 11, 15].map (fun i => ⟨⟨BitVec.ofNat 128 i⟩⟩) ∧
    (D.draft {}).asked.Nodup ∧
    ∀ id, id ∈ (D.draft {}).asked ↔ ∃ n ∈ Graph.sample.nodes, n.id = id ∧ D.Walked n := by
  intro D
  have hreach : Graph.sample.Reachable Palette.standard.Has :=
    Graph.sample_reachable fun _ => Palette.standard_has_iff.mpr
  have honce := each_statement_once hreach {}
  exact ⟨hreach, by decide, honce.1, honce.2.1⟩

end ScriptGraph.Drawing
