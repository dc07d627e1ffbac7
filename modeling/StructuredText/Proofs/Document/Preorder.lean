import StructuredText.Proofs.Document.Traversal

/-!
# Document order

The blocks of a document in document order, by recursion on the tree: each block, and then those nested
in it, child by child (`Block.preorder`). A traversal keeps a list of the blocks still to be visited
instead; whatever is on that list, it meets the preorder of it (`visit_eq_preorderAll`).

That each block is met once is said by addresses. The address of a block tells its position among the
blocks of the document, or else that of the block around it and then its position in there
(`Block.at?`). The addresses in the order of the traversal (`Block.addresses`) are strictly increasing
in the lexicographic order, none is missing, and what is met is what stands at them
(`pairwise_addresses`, `mem_addresses`, `map_at?_addresses`).
-/

namespace StructuredText

namespace Block

/-! ## Preorder -/

mutual

/-- A block and then all that is nested in it. Nodes that keep an invocation and extension nodes are
opaque. -/
def preorder : Block → List Block
  | paragraph line is => [paragraph line is]
  | quote line bs => quote line bs :: preorderAll bs
  | comment line text => [comment line text]
  | element tag attributes text bs => element tag attributes text bs :: preorderAll bs
  | directive inv raw bs => [directive inv raw bs]
  | extension tag inv attributes bs => [extension tag inv attributes bs]

/-- The blocks, each with all that is nested in it. -/
def preorderAll : List Block → List Block
  | [] => []
  | b :: bs => b.preorder ++ preorderAll bs

end

theorem preorder_eq (b : Block) : b.preorder = b :: preorderAll b.children := by
  cases b <;> rfl

theorem preorderAll_cons (b : Block) (bs : List Block) :
    preorderAll (b :: bs) = b :: (preorderAll b.children ++ preorderAll bs) := by
  rw [preorderAll, preorder_eq, List.cons_append]

theorem preorderAll_append (as bs : List Block) :
    preorderAll (as ++ bs) = preorderAll as ++ preorderAll bs := by
  induction as with
  | nil => rfl
  | cons a as ih => rw [List.cons_append, preorderAll, preorderAll, ih, List.append_assoc]

/-- **A traversal meets the preorder of the blocks still to be visited**, whatever these are. -/
theorem visit_eq_preorderAll (pending : List Block) : visit pending = preorderAll pending := by
  induction pending using visit.induct with
  | case1 => rw [visit_nil, preorderAll]
  | case2 b pending ih => rw [visit_cons, ih, preorderAll_append, preorderAll_cons]

/-! ## Addresses -/

/-- What holds of no blocks, and passes to some from the children of the first and from the others,
holds of all blocks. -/
theorem forest_induction {motive : List Block → Prop} (nil : motive [])
    (cons : ∀ b bs, motive b.children → motive bs → motive (b :: bs)) (bs : List Block) :
    motive bs := by
  induction hn : countAll bs using Nat.strongRecOn generalizing bs with
  | _ n ih =>
    subst hn
    cases bs with
    | nil => exact nil
    | cons b bs =>
      have hcount : countAll (b :: bs) = 1 + countAll b.children + countAll bs := by
        rw [countAll, count_eq]
      exact cons b bs (ih _ (by omega) _ rfl) (ih _ (by omega) _ rfl)

/-- The block at an address. -/
def at? : (address : List Nat) → List Block → Option Block
  | [], _ => none
  | [i], bs => bs[i]?
  | i :: j :: address, bs => bs[i]?.bind fun b => at? (j :: address) b.children

example : at? [0, 1] [.quote 1 [.comment 1 "a", .comment 2 "b"], .comment 4 "c"] =
    some (.comment 2 "b") := rfl

/-- The address of the same block when one more block stands in front. -/
def nextAddress : List Nat → List Nat
  | [] => []
  | i :: address => (i + 1) :: address

mutual

/-- The addresses of a block and of all that is nested in it, from that block. -/
def addressesIn : Block → List (List Nat)
  | quote _ bs => [] :: addresses bs
  | element _ _ _ bs => [] :: addresses bs
  | paragraph .. => [[]]
  | comment .. => [[]]
  | directive .. => [[]]
  | extension .. => [[]]

/-- The addresses of the blocks and of all that is nested in them. -/
def addresses : List Block → List (List Nat)
  | [] => []
  | b :: bs => b.addressesIn.map (0 :: ·) ++ (addresses bs).map nextAddress

end

example : addresses [.quote 1 [.comment 1 "a", .comment 2 "b"], .comment 4 "c"] =
    [[0], [0, 0], [0, 1], [1]] := rfl

theorem addressesIn_eq (b : Block) : b.addressesIn = [] :: addresses b.children := by
  cases b <;> rfl

theorem addresses_cons (b : Block) (bs : List Block) :
    addresses (b :: bs) =
      [0] :: ((addresses b.children).map (0 :: ·) ++ (addresses bs).map nextAddress) := by
  rw [addresses, addressesIn_eq, List.map_cons, List.cons_append]

theorem exists_of_mem_addresses {bs : List Block} {a : List Nat} (h : a ∈ addresses bs) :
    ∃ i address, a = i :: address := by
  cases bs with
  | nil => cases h
  | cons b bs =>
    rw [addresses_cons, List.mem_cons, List.mem_append, List.mem_map, List.mem_map] at h
    rcases h with rfl | ⟨a, -, rfl⟩ | ⟨a, ha, rfl⟩
    · exact ⟨0, [], rfl⟩
    · exact ⟨0, a, rfl⟩
    · obtain ⟨i, address, rfl⟩ := exists_of_mem_addresses ha
      exact ⟨i + 1, address, rfl⟩

theorem nextAddress_lt {a a' : List Nat} (h : a < a') (hne : a ≠ []) :
    nextAddress a < nextAddress a' := by
  cases h with
  | nil => exact absurd rfl hne
  | rel h => exact .rel (Nat.succ_lt_succ h)
  | cons h => exact .cons h

/-- **No address comes twice, and they come in lexicographic order.** -/
theorem pairwise_addresses (bs : List Block) : (addresses bs).Pairwise (· < ·) := by
  induction bs using forest_induction with
  | nil => exact .nil
  | cons b bs ihChildren ih =>
    rw [addresses_cons, List.pairwise_cons, List.pairwise_append]
    refine ⟨fun a ha => ?_, ?_, ?_, fun a ha a' ha' => ?_⟩
    · rcases List.mem_append.1 ha with ha | ha
      · obtain ⟨a, hin, rfl⟩ := List.mem_map.1 ha
        obtain ⟨i, address, rfl⟩ := exists_of_mem_addresses hin
        exact .cons .nil
      · obtain ⟨a, hin, rfl⟩ := List.mem_map.1 ha
        obtain ⟨i, address, rfl⟩ := exists_of_mem_addresses hin
        exact .rel (Nat.succ_pos i)
    · exact List.pairwise_map.2 (ihChildren.imp fun h => .cons h)
    · refine List.pairwise_map.2 (ih.imp_of_mem fun ha _ h => nextAddress_lt h ?_)
      obtain ⟨i, address, rfl⟩ := exists_of_mem_addresses ha
      exact List.cons_ne_nil _ _
    · obtain ⟨x, -, rfl⟩ := List.mem_map.1 ha
      obtain ⟨x', hin, rfl⟩ := List.mem_map.1 ha'
      obtain ⟨i, address, rfl⟩ := exists_of_mem_addresses hin
      exact .rel (Nat.succ_pos i)

theorem at?_zero_cons {a : List Nat} (hne : a ≠ []) (b : Block) (bs : List Block) :
    at? (0 :: a) (b :: bs) = at? a b.children := by
  cases a with
  | nil => exact absurd rfl hne
  | cons i a => rfl

theorem at?_nextAddress (a : List Nat) (b : Block) (bs : List Block) :
    at? (nextAddress a) (b :: bs) = at? a bs := by
  match a with
  | [] => rfl
  | [i] => rfl
  | i :: j :: a => rfl

/-- **The blocks at the addresses are those of the preorder.** -/
theorem map_at?_addresses (bs : List Block) :
    (addresses bs).map (at? · bs) = (preorderAll bs).map some := by
  induction bs using forest_induction with
  | nil => rfl
  | cons b bs ihChildren ih =>
    have hchildren : ((addresses b.children).map (0 :: ·)).map (at? · (b :: bs)) =
        (addresses b.children).map (at? · b.children) := by
      rw [List.map_map]
      refine List.map_congr_left fun a ha => ?_
      obtain ⟨i, address, rfl⟩ := exists_of_mem_addresses ha
      exact at?_zero_cons (List.cons_ne_nil _ _) b bs
    have hnext : ((addresses bs).map nextAddress).map (at? · (b :: bs)) =
        (addresses bs).map (at? · bs) := by
      rw [List.map_map]
      exact List.map_congr_left fun a _ => at?_nextAddress a b bs
    rw [addresses_cons, List.map_cons, List.map_append, hchildren, hnext, ihChildren, ih,
      preorderAll_cons, List.map_cons, List.map_append]
    rfl

/-- **Every block is met**: no address at which one stands is missing. -/
theorem mem_addresses {bs : List Block} {a : List Nat} {b : Block} (h : at? a bs = some b) :
    a ∈ addresses bs := by
  induction bs using forest_induction generalizing a with
  | nil =>
    match a with
    | [] => cases h
    | [i] => cases h
    | i :: j :: a => cases h
  | cons c bs ihChildren ih =>
    rw [addresses_cons, List.mem_cons, List.mem_append, List.mem_map, List.mem_map]
    match a with
    | [] => cases h
    | [0] => exact Or.inl rfl
    | 0 :: j :: a => exact Or.inr (Or.inl ⟨j :: a, ihChildren h, rfl⟩)
    | (i + 1) :: a =>
      have hrest : at? (nextAddress (i :: a)) (c :: bs) = some b := h
      rw [at?_nextAddress] at hrest
      exact Or.inr (Or.inr ⟨i :: a, ih hrest, rfl⟩)

end Block

namespace Document

/-- The block at an address. -/
def at? (d : Document) (address : List Nat) : Option Block := Block.at? address d.children

/-- **A traversal is complete and in document order.** The blocks of a document are its preorder: they
are the blocks at addresses that are strictly increasing, and every address at which a block stands is
among them. The inline nodes are those of the paragraphs, in the same order. -/
theorem blocks_eq_preorderAll (d : Document) :
    d.blocks = Block.preorderAll d.children ∧
      (∃ addresses : List (List Nat), addresses.Pairwise (· < ·) ∧
        (∀ a b, d.at? a = some b → a ∈ addresses) ∧
        addresses.map d.at? = d.blocks.map some) ∧
      d.inlines = (Block.preorderAll d.children).flatMap fun
        | .paragraph _ is => is
        | _ => [] := by
  have hblocks : d.blocks = Block.preorderAll d.children := Block.visit_eq_preorderAll d.children
  refine ⟨hblocks, ⟨_, Block.pairwise_addresses d.children, fun a b => Block.mem_addresses, ?_⟩, ?_⟩
  · rw [hblocks]
    exact Block.map_at?_addresses d.children
  · rw [inlines, hblocks]
    rfl

end Document

end StructuredText
