import ScriptGraph.Palette.Standard
import ScriptGraph.Proofs.Session.Basic

/-!
# Regular kinds

What the flow of control through a drawing rests on is said here about kinds: a kind has one control
input at most, control leaves a control structure through control outputs only, and neither the
start nor the definition of a function has inputs.  The built-in kinds are regular
(`NodeKind.regular_of_mem_builtin`), and they are exactly what the standard palette has
(`Palette.standard_has_iff`).
-/

namespace ScriptGraph

/-! ## Looking up in tables -/

namespace Table

variable {α : Type}

theorem get?_eq_some_iff {t : Table α} {key : String} {value : α} :
    t.get? key = some value ↔ (key, value) ∈ t.entries := by
  rw [get?, Option.map_eq_some_iff]
  constructor
  · rintro ⟨⟨found, _⟩, hfind, rfl⟩
    obtain ⟨hmem, rfl⟩ := (find?_eq_some_iff_mem Prod.fst t.distinct).mp hfind
    exact hmem
  · intro hmem
    exact ⟨(key, value), (find?_eq_some_iff_mem Prod.fst t.distinct).mpr ⟨hmem, rfl⟩, rfl⟩

/-- A key that is not there yet goes to the end. -/
theorem set_entries_of_notMem {t : Table α} {key : String} (hkey : key ∉ t.keys) (value : α) :
    (t.set key value).entries = t.entries ++ [(key, value)] := by
  obtain ⟨entries, hdistinct⟩ := t
  change setEntries key value entries = entries ++ [(key, value)]
  change key ∉ entries.map Prod.fst at hkey
  clear hdistinct
  induction entries with
  | nil => rfl
  | cons entry rest ih =>
      rw [List.map_cons, List.mem_cons, not_or] at hkey
      rw [setEntries, if_neg (Ne.symm hkey.1), ih hkey.2, List.cons_append]

/-- Entries whose keys are distinct and not there yet go to the end in their order. -/
theorem foldl_set_entries {t : Table α} {entries : List (String × α)}
    (hdistinct : (t.keys ++ entries.map Prod.fst).Nodup) :
    (entries.foldl (fun t entry => t.set entry.1 entry.2) t).entries = t.entries ++ entries := by
  induction entries generalizing t with
  | nil => exact (List.append_nil _).symm
  | cons entry entries ih =>
      have hnew : entry.1 ∉ t.keys := by
        intro hmem
        exact (List.nodup_append.mp hdistinct).2.2 _ hmem _ List.mem_cons_self rfl
      have hentries := set_entries_of_notMem hnew entry.2
      rw [List.foldl_cons, ih, hentries, List.append_assoc, List.singleton_append]
      rw [keys, hentries]
      simpa [keys] using hdistinct

theorem ofList_entries (t : Table α) : ofList t.entries = t :=
  ext (foldl_set_entries t.distinct)

end Table

namespace Palette

theorem tag_of_get? {palette : Palette} {tag : String} {kind : NodeKind}
    (h : palette.get? tag = some kind) : kind.tag = tag :=
  palette.keyed _ (Table.get?_eq_some_iff.mp h)

/-- A palette of kinds with distinct tags lists them as they are. -/
theorem ofKinds_entries {kinds : List NodeKind} (hdistinct : (kinds.map NodeKind.tag).Nodup) :
    (ofKinds kinds).entries = kinds.map fun kind => (kind.tag, kind) := by
  have hkeys : (kinds.map fun kind => (kind.tag, kind)).map Prod.fst = kinds.map NodeKind.tag := by
    rw [List.map_map]
    rfl
  have hfold : (ofKinds kinds).toTable = Table.ofList (kinds.map fun kind => (kind.tag, kind)) := by
    rw [Table.ofList, List.foldl_map]
    exact (List.foldl_hom toTable fun _ _ => rfl).symm
  rw [hfold]
  apply Table.foldl_set_entries
  rw [hkeys]
  exact hdistinct

theorem ofKinds_get?_eq_some_iff {kinds : List NodeKind}
    (hdistinct : (kinds.map NodeKind.tag).Nodup) {tag : String} {kind : NodeKind} :
    (ofKinds kinds).get? tag = some kind ↔ kind ∈ kinds ∧ kind.tag = tag := by
  rw [Table.get?_eq_some_iff, ofKinds_entries hdistinct, List.mem_map]
  constructor
  · rintro ⟨found, hmem, heq⟩
    obtain ⟨rfl, rfl⟩ := Prod.mk.inj heq
    exact ⟨hmem, rfl⟩
  · rintro ⟨hmem, rfl⟩
    exact ⟨kind, hmem, rfl⟩

/-- The standard palette has the built-in kinds and no others. -/
theorem standard_has_iff {kind : NodeKind} : standard.Has kind ↔ kind ∈ NodeKind.builtin := by
  have hdistinct : (NodeKind.builtin.map NodeKind.tag).Nodup := by decide
  rw [Palette.Has, standard, ofKinds_get?_eq_some_iff hdistinct]
  simp

end Palette

/-! ## Kinds and control -/

namespace Behaviour

/-- Behaviours that give one line at most and leave it to the walk to go on. -/
def isPlain : Behaviour → Bool
  | .branch | .forEach | .repeatWhile | .define | .custom _ => false
  | _ => true

/-- The outputs at which a behaviour goes on by itself. -/
def outlets : Behaviour → List String
  | .branch => ["True", "False", "Next"]
  | .forEach => ["Loop Body", "Next"]
  | .repeatWhile => ["Body", "Next"]
  | .define => ["Exec"]
  | _ => []

end Behaviour

namespace NodeKind

/-- A kind through which control flows in an orderly way. -/
structure Regular (kind : NodeKind) : Prop where
  /-- no two inputs carry control -/
  exec_input_single : kind.inputs.Pairwise fun s t => ¬ (s.type = .exec ∧ t.type = .exec)
  outlets_exec : ∀ s ∈ kind.outputs, s.name ∈ kind.behaviour.outlets → s.type = .exec
  behaviour_cases : kind.behaviour.isPlain = true ∨
    kind.behaviour ∈ [.branch, .forEach, .repeatWhile, .define]
  define_iff : kind.behaviour = .define ↔ kind.tag = function.tag
  /-- nothing leads to the start or to the definition of a function -/
  roots_closed : kind.tag ∈ [Graph.startTag, function.tag] → kind.inputs = []

theorem regular_of_mem_builtin : ∀ kind ∈ builtin, kind.Regular := by
  have hsingle : ∀ kind ∈ builtin,
      kind.inputs.Pairwise fun s t => ¬ (s.type = .exec ∧ t.type = .exec) := by decide
  have houtlets : ∀ kind ∈ builtin, ∀ s ∈ kind.outputs,
      s.name ∈ kind.behaviour.outlets → s.type = .exec := by decide
  have hcases : ∀ kind ∈ builtin, kind.behaviour.isPlain = true ∨
      kind.behaviour ∈ [.branch, .forEach, .repeatWhile, .define] := by decide
  have hdefine : ∀ kind ∈ builtin, kind.behaviour = .define ↔ kind.tag = function.tag := by decide
  have hroots : ∀ kind ∈ builtin, kind.tag ∈ [Graph.startTag, function.tag] →
      kind.inputs = [] := by decide
  intro kind hkind
  exact ⟨hsingle kind hkind, houtlets kind hkind, hcases kind hkind, hdefine kind hkind,
    hroots kind hkind⟩

end NodeKind

end ScriptGraph
