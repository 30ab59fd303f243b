import Mathlib.Data.List.Induction
import NodeLabels.Node
import NodeLabels.Proofs.Cluster.Interleaving
/-!
# A store of nodes

The nodes of a cluster, each under a name of its own. A patch merges its labels into those of the
node that it names. What a list of patches makes of a label depends on the last one that sets it, so
the same list again changes nothing.
-/

namespace NodeLabels

namespace Cluster

/-- The node after a patch, which may be for another one. -/
def receive (node : Node) (p : Patch) : Node :=
  if node.name = p.1 then { node with labels := node.labels.override p.2 } else node

def receiveAll (patches : List Patch) (node : Node) : Node := patches.foldl receive node

/-- The value that the last of the patches of a node that sets the label gives it. -/
def lastValue? (patches : List Patch) (name key : String) : Option String :=
  patches.foldl (fun value p => if name = p.1 then (p.2.find? key).or value else value) none

@[simp] theorem name_receive (node : Node) (p : Patch) : (receive node p).name = node.name := by
  unfold receive
  split <;> rfl

@[simp] theorem providerId_receive (node : Node) (p : Patch) :
    (receive node p).providerId = node.providerId := by
  unfold receive
  split <;> rfl

theorem find?_receive (node : Node) (p : Patch) (key : String) :
    (receive node p).labels.find? key =
      if node.name = p.1 then (p.2.find? key).or (node.labels.find? key)
      else node.labels.find? key := by
  unfold receive
  by_cases hname : node.name = p.1
  · rw [if_pos hname, if_pos hname]
    exact LabelMap.find?_override ..
  · rw [if_neg hname, if_neg hname]

@[simp] theorem name_receiveAll (patches : List Patch) (node : Node) :
    (receiveAll patches node).name = node.name := by
  induction patches generalizing node with
  | nil => rfl
  | cons p patches ih => exact (ih _).trans (name_receive node p)

@[simp] theorem providerId_receiveAll (patches : List Patch) (node : Node) :
    (receiveAll patches node).providerId = node.providerId := by
  induction patches generalizing node with
  | nil => rfl
  | cons p patches ih => exact (ih _).trans (providerId_receive node p)

theorem find?_receiveAll (patches : List Patch) (node : Node) (key : String) :
    (receiveAll patches node).labels.find? key =
      (lastValue? patches node.name key).or (node.labels.find? key) := by
  induction patches using List.reverseRecOn with
  | nil => rfl
  | append_singleton patches p ih =>
    have hreceive : receiveAll (patches ++ [p]) node = receive (receiveAll patches node) p :=
      List.foldl_append
    have hlast : lastValue? (patches ++ [p]) node.name key =
        if node.name = p.1 then (p.2.find? key).or (lastValue? patches node.name key)
        else lastValue? patches node.name key := List.foldl_append
    rw [hreceive, find?_receive, ih, name_receiveAll, hlast]
    by_cases hp : node.name = p.1
    · rw [if_pos hp, if_pos hp, Option.or_assoc]
    · rw [if_neg hp, if_neg hp]

theorem Node.eq_of_find? {n m : Node} (hname : n.name = m.name)
    (hproviderId : n.providerId = m.providerId)
    (hlabels : ∀ key, n.labels.find? key = m.labels.find? key) : n = m := by
  obtain ⟨name, providerId, labels⟩ := n
  obtain rfl : labels = m.labels := LabelMap.ext_find? hlabels
  obtain rfl : name = m.name := hname
  obtain rfl : providerId = m.providerId := hproviderId
  rfl

/-- The labels are as the patches have them already. -/
theorem receiveAll_receiveAll (patches : List Patch) (node : Node) :
    receiveAll patches (receiveAll patches node) = receiveAll patches node := by
  apply Node.eq_of_find?
  · simp
  · simp
  · intro key
    rw [find?_receiveAll, name_receiveAll, find?_receiveAll, ← Option.or_assoc, Option.or_self]

/-- The nodes differ in this label at most. -/
structure AgreeOff (key : String) (n m : Node) : Prop where
  name : n.name = m.name
  providerId : n.providerId = m.providerId
  labels : ∀ k, k ≠ key → n.labels.find? k = m.labels.find? k

theorem lastValue?_eq_none {patches : List Patch} {key : String}
    (h : ∀ p ∈ patches, p.2.find? key = none) (name : String) :
    lastValue? patches name key = none := by
  unfold lastValue?
  induction patches with
  | nil => rfl
  | cons p patches ih =>
    obtain ⟨hp, hpatches⟩ := List.forall_mem_cons.1 h
    rw [List.foldl_cons, hp, Option.none_or, ite_self]
    exact ih hpatches

theorem agreeOff_receiveAll {patches : List Patch} {key : String}
    (h : ∀ p ∈ patches, ∀ k, k ≠ key → p.2.find? k = none) (node : Node) :
    AgreeOff key (receiveAll patches node) node where
  name := name_receiveAll patches node
  providerId := providerId_receiveAll patches node
  labels k hk := by
    rw [find?_receiveAll, lastValue?_eq_none fun p hp => h p hp k hk]
    rfl

/-- Nodes of different names, in the order in which they are listed. -/
structure Store where
  nodes : List Node
  unique : (nodes.map Node.name).Nodup

namespace Store

@[ext] theorem ext {a b : Store} (h : a.nodes = b.nodes) : a = b := by
  cases a
  cases h
  rfl

def merge (store : Store) (p : Patch) : Store where
  nodes := store.nodes.map (receive · p)
  unique := by
    have hnames : Node.name ∘ (receive · p) = Node.name := funext fun node => name_receive node p
    rw [List.map_map, hnames]
    exact store.unique

def mergeAll (store : Store) (patches : List Patch) : Store := patches.foldl merge store

theorem nodes_mergeAll (store : Store) (patches : List Patch) :
    (store.mergeAll patches).nodes = store.nodes.map (receiveAll patches) := by
  induction patches generalizing store with
  | nil => exact (List.map_id' store.nodes).symm
  | cons p patches ih =>
    rw [mergeAll, List.foldl_cons, ← mergeAll, ih, merge, List.map_map]
    rfl

/-- The nodes that are selected. -/
def listing (store : Store) (selects : Node → Bool) : List Node := store.nodes.filter selects

theorem listing_mergeAll {selects : Node → Bool} {key : String}
    (hselects : ∀ n m, AgreeOff key n m → selects n = selects m) {patches : List Patch}
    (hpatches : ∀ p ∈ patches, ∀ k, k ≠ key → p.2.find? k = none) (store : Store) :
    (store.mergeAll patches).listing selects =
      (store.listing selects).map (receiveAll patches) := by
  have hsame : selects ∘ receiveAll patches = selects :=
    funext fun node => hselects _ _ (agreeOff_receiveAll hpatches node)
  rw [listing, nodes_mergeAll, List.filter_map, hsame]
  rfl

theorem mergeAll_append (store : Store) (patches more : List Patch) :
    store.mergeAll (patches ++ more) = (store.mergeAll patches).mergeAll more :=
  List.foldl_append

/-- Patches that the store took before change nothing. -/
theorem mergeAll_mergeAll (store : Store) (patches : List Patch) :
    (store.mergeAll patches).mergeAll patches = store.mergeAll patches := by
  apply ext
  rw [nodes_mergeAll, nodes_mergeAll, List.map_map]
  exact List.map_congr_left fun node _ => receiveAll_receiveAll patches node

end Store

end Cluster

end NodeLabels
