import Mathlib.Data.List.Induction
import Mathlib.Data.List.Nodup
import Mathlib.Data.List.Perm.Basic
import Mathlib.Algebra.Ring.Nat
import Mathlib.Algebra.BigOperators.Group.List.Basic

/-!
# Grouping a list by keys

Insertion-ordered dictionaries that are filled from a list: counters, nested counters and lists of
members.  Every such dictionary holds one entry for each key, in the order in which the keys first
occur, computed from the items with that key.  The parts of a list under distinct keys put together
are the list again, so that nothing is lost and nothing counted twice.
-/

namespace ReflectNanobind.Library.Grouping

/-! ## The parts of a list -/

section Parts

variable {α κ : Type*} [DecidableEq κ] (key : α → κ)

/-- The items with one key. -/
def part (items : List α) (k : κ) : List α := items.filter fun item ↦ decide (key item = k)

theorem mem_part {items : List α} {k : κ} {item : α} :
    item ∈ part key items k ↔ item ∈ items ∧ key item = k := by
  simp [part]

theorem part_concat (items : List α) (item : α) (k : κ) :
    part key (items ++ [item]) k = part key items k ++ if key item = k then [item] else [] := by
  by_cases h : key item = k <;> simp [part, h]

/-- Removing the items of another key changes no part. -/
theorem part_filter_ne (items : List α) {k other : κ} (h : other ≠ k) :
    part key (items.filter fun item ↦ !decide (key item = k)) other = part key items other := by
  rw [part, List.filter_filter, part]
  refine List.filter_congr fun item _ ↦ ?_
  by_cases hkey : key item = other
  · simp [hkey, h]
  · simp [hkey]

/-- The parts under distinct keys that cover the list are the list in another order. -/
theorem flatMap_part_perm {keys : List κ} (hnodup : keys.Nodup) {items : List α}
    (hcover : ∀ item ∈ items, key item ∈ keys) : (keys.flatMap (part key items)).Perm items := by
  induction keys generalizing items with
  | nil =>
      have hnil : items = [] := List.eq_nil_iff_forall_not_mem.mpr fun item hitem ↦
        List.not_mem_nil (hcover item hitem)
      rw [hnil]
      rfl
  | cons k keys ih =>
      obtain ⟨hk, hkeys⟩ := List.nodup_cons.mp hnodup
      have hrest : (keys.flatMap (part key (items.filter fun item ↦ !decide (key item = k)))).Perm
          (items.filter fun item ↦ !decide (key item = k)) := by
        refine ih hkeys fun item hitem ↦ ?_
        obtain ⟨hmem, hne⟩ := List.mem_filter.mp hitem
        exact (List.mem_cons.mp (hcover item hmem)).resolve_left (by simpa using hne)
      have hparts : keys.flatMap (part key items) =
          keys.flatMap (part key (items.filter fun item ↦ !decide (key item = k))) := by
        refine List.flatMap_congr fun other hother ↦ (part_filter_ne key items ?_).symm
        rintro rfl
        exact hk hother
      rw [List.flatMap_cons, hparts]
      exact (hrest.append_left _).trans (List.filter_append_perm _ _)

variable {key}

/-- What is counted in the parts is counted in the list. -/
theorem sum_countP_part {keys : List κ} (hnodup : keys.Nodup) {items : List α}
    (hcover : ∀ item ∈ items, key item ∈ keys) (p : α → Bool) :
    (keys.map fun k ↦ (part key items k).countP p).sum = items.countP p := by
  rw [← (flatMap_part_perm key hnodup hcover).countP_eq, List.countP_flatMap]
  rfl

end Parts

/-! ## Keys in the order of their first occurrence -/

section Keys

variable {κ : Type*} [DecidableEq κ]

theorem eraseDups_concat (keys : List κ) (k : κ) :
    (keys ++ [k]).eraseDups = keys.eraseDups ++ if k ∈ keys then [] else [k] := by
  rw [List.eraseDups_append]
  by_cases h : k ∈ keys <;> simp [List.removeAll, h, List.eraseDups_cons]

theorem nodup_eraseDups (keys : List κ) : keys.eraseDups.Nodup := by
  induction keys using List.reverseRecOn with
  | nil => simp
  | append_singleton keys k ih =>
      rw [eraseDups_concat]
      split
      · simpa using ih
      · next hk =>
          have hfresh : ∀ other ∈ keys, other ≠ k := by
            rintro other hother rfl
            exact hk hother
          simpa [List.nodup_append, ih] using hfresh

end Keys

/-! ## Dictionaries -/

/-- The items of an insertion-ordered dictionary. -/
abbrev Dict (κ ν : Type*) := List (κ × ν)

section Dictionaries

variable {α κ ν : Type*} [DecidableEq κ]

/-- `dict[key] = change(dict[key])`, where a missing key stands for the value `start`. -/
def upsert (key : κ) (start : ν) (change : ν → ν) : Dict κ ν → Dict κ ν
  | [] => [(key, change start)]
  | (other, value) :: rest =>
      if other = key then (other, change value) :: rest
      else (other, value) :: upsert key start change rest

/-- The dictionary after `dict[key(item)] = change(item, dict[key(item)])` for every item. -/
def collect (key : α → κ) (start : ν) (change : α → ν → ν) (items : List α) : Dict κ ν :=
  items.foldl (fun dict item ↦ upsert (key item) start (change item) dict) []

/-- The entries after an update: the old ones, and the changed one under the key. -/
theorem mem_upsert {key : κ} {start : ν} {change : ν → ν} {dict : Dict κ ν} {entry : κ × ν}
    (h : entry ∈ upsert key start change dict) : entry ∈ dict ∨
      ∃ value, (value = start ∨ (key, value) ∈ dict) ∧ entry = (key, change value) := by
  induction dict with
  | nil => exact .inr ⟨start, .inl rfl, by simpa [upsert] using h⟩
  | cons head rest ih =>
      obtain ⟨other, old⟩ := head
      rw [upsert] at h
      split at h
      · next heq =>
          rcases List.mem_cons.mp h with rfl | hrest
          · exact .inr ⟨old, .inr (by simp [heq]), by rw [heq]⟩
          · exact .inl (List.mem_cons_of_mem _ hrest)
      · rcases List.mem_cons.mp h with rfl | hrest
        · exact .inl List.mem_cons_self
        · rcases ih hrest with hold | ⟨value, hvalue, hentry⟩
          · exact .inl (List.mem_cons_of_mem _ hold)
          · exact .inr ⟨value, hvalue.imp_right (List.mem_cons_of_mem _), hentry⟩

theorem lookup_cons (first other : κ) (value : ν) (rest : Dict κ ν) :
    List.lookup other ((first, value) :: rest) =
      if other = first then some value else rest.lookup other := by
  rw [List.lookup_cons]
  by_cases h : other = first
  · simp [h]
  · simp [beq_eq_false_iff_ne.mpr h, h]

theorem lookup_upsert (key other : κ) (start : ν) (change : ν → ν) (dict : Dict κ ν) :
    (upsert key start change dict).lookup other =
      if other = key then some (change ((dict.lookup key).getD start)) else dict.lookup other := by
  induction dict with
  | nil => simp [upsert, lookup_cons]
  | cons head rest ih =>
      obtain ⟨first, value⟩ := head
      rw [upsert]
      by_cases hkey : first = key
      · subst hkey
        by_cases h : other = first <;> simp [h, lookup_cons]
      · rw [if_neg hkey, lookup_cons, lookup_cons, lookup_cons, ih, if_neg (Ne.symm hkey)]
        by_cases h : other = first
        · subst h
          simp [hkey]
        · simp [h]

theorem lookup_map_values {ω : Type*} (change : κ → ν → ω) (dict : Dict κ ν) (key : κ) :
    (dict.map fun entry ↦ (entry.1, change entry.1 entry.2)).lookup key =
      (dict.lookup key).map (change key) := by
  induction dict with
  | nil => rfl
  | cons entry rest ih =>
      obtain ⟨other, value⟩ := entry
      rw [List.map_cons, lookup_cons, lookup_cons, ih]
      by_cases h : key = other <;> simp [h]

theorem lookup_filter_ne (dict : Dict κ ν) (key other : κ) :
    (dict.filter fun entry ↦ !decide (entry.1 = key)).lookup other =
      if other = key then none else dict.lookup other := by
  induction dict with
  | nil => simp
  | cons entry rest ih =>
      obtain ⟨first, value⟩ := entry
      by_cases hfirst : first = key
      · subst hfirst
        simp only [List.filter_cons, decide_true, Bool.not_true, Bool.false_eq_true, if_false, ih,
          lookup_cons]
        by_cases h : other = first <;> simp [h]
      · by_cases h : other = first
        · simp [hfirst, h]
        · simp [hfirst, h, ih, lookup_cons]

/-- Under distinct keys every entry is found. -/
theorem lookup_of_mem {dict : Dict κ ν} (h : (dict.map Prod.fst).Nodup) {entry : κ × ν}
    (hentry : entry ∈ dict) : dict.lookup entry.1 = some entry.2 := by
  induction dict with
  | nil => simp at hentry
  | cons head rest ih =>
      obtain ⟨first, value⟩ := head
      obtain ⟨hfirst, hrest⟩ := List.nodup_cons.mp h
      rw [lookup_cons]
      rcases List.mem_cons.mp hentry with rfl | hmem
      · exact if_pos rfl
      · have hne : entry.1 ≠ first := fun heq ↦
          hfirst (List.mem_map.mpr ⟨entry, hmem, heq⟩)
        rw [if_neg hne, ih hrest hmem]

theorem nodup_keys_upsert {dict : Dict κ ν} (h : (dict.map Prod.fst).Nodup) (key : κ) (start : ν)
    (change : ν → ν) : ((upsert key start change dict).map Prod.fst).Nodup := by
  induction dict with
  | nil => simp [upsert]
  | cons head rest ih =>
      obtain ⟨first, value⟩ := head
      obtain ⟨hfirst, hrest⟩ := List.nodup_cons.mp h
      rw [upsert]
      split
      · exact List.nodup_cons.mpr ⟨hfirst, hrest⟩
      · next hne =>
          refine List.nodup_cons.mpr ⟨fun hmem ↦ ?_, ih hrest⟩
          obtain ⟨entry, hentry, hname⟩ := List.mem_map.mp hmem
          rcases mem_upsert hentry with hold | ⟨_, _, rfl⟩
          · exact hfirst (List.mem_map.mpr ⟨entry, hold, hname⟩)
          · exact hne hname.symm

theorem upsert_map {keys : List κ} (hnodup : keys.Nodup) (values : κ → ν) (k : κ) (start : ν)
    (change : ν → ν) (hstart : k ∉ keys → values k = start) :
    upsert k start change (keys.map fun other ↦ (other, values other)) =
      (keys ++ if k ∈ keys then [] else [k]).map
        fun other ↦ (other, if other = k then change (values other) else values other) := by
  induction keys with
  | nil => simp [upsert, hstart]
  | cons other keys ih =>
      obtain ⟨hother, hkeys⟩ := List.nodup_cons.mp hnodup
      by_cases h : other = k
      · subst h
        have hrest : keys.map (fun k ↦ (k, if k = other then change (values k) else values k)) =
            keys.map fun k ↦ (k, values k) := by
          refine List.map_congr_left fun k hk ↦ ?_
          rw [if_neg fun heq : k = other ↦ hother (heq ▸ hk)]
        simp [upsert, hrest]
      · have hstep := ih hkeys fun hk ↦ hstart (by simp [hk, Ne.symm h])
        simp [upsert, h, Ne.symm h, hstep]

/-- A filled dictionary has the keys in the order of their first occurrence, and under each of them
what its items make of the start value. -/
theorem collect_eq (key : α → κ) (start : ν) (change : α → ν → ν) (items : List α) :
    collect key start change items = (items.map key).eraseDups.map fun k ↦
      (k, (part key items k).foldl (fun value item ↦ change item value) start) := by
  induction items using List.reverseRecOn with
  | nil => rfl
  | append_singleton items item ih =>
      have hstart : key item ∉ (items.map key).eraseDups →
          (part key items (key item)).foldl (fun value item ↦ change item value) start = start := by
        intro hkey
        rw [List.mem_eraseDups] at hkey
        have hnone : part key items (key item) = [] := by
          refine List.filter_eq_nil_iff.mpr fun other hother ↦ ?_
          simpa using fun heq ↦ hkey (List.mem_map.mpr ⟨other, hother, heq⟩)
        rw [hnone]
        rfl
      have hstep : collect key start change (items ++ [item]) =
          upsert (key item) start (change item) (collect key start change items) := by
        simp [collect]
      have hkeys : ((items ++ [item]).map key).eraseDups = (items.map key).eraseDups ++
          if key item ∈ (items.map key).eraseDups then [] else [key item] := by
        simp only [List.map_append, List.map_cons, List.map_nil, eraseDups_concat,
          List.mem_eraseDups]
      rw [hstep, ih, upsert_map (nodup_eraseDups _) _ _ _ _ hstart, hkeys]
      refine List.map_congr_left fun k _ ↦ ?_
      rw [part_concat, List.foldl_append]
      by_cases h : k = key item
      · simp [h]
      · simp [h, Ne.symm h]

theorem nodup_keys_collect (key : α → κ) (start : ν) (change : α → ν → ν) (items : List α) :
    ((collect key start change items).map Prod.fst).Nodup := by
  rw [collect_eq, List.map_map]
  exact (nodup_eraseDups _).map Function.injective_id

/-- Two dictionaries that are filled in one loop. -/
theorem foldl_pair {σ τ : Type*} (first : σ → α → σ) (second : τ → α → τ) (items : List α)
    (state : σ × τ) : items.foldl (fun state item ↦ (first state.1 item, second state.2 item)) state =
      (items.foldl first state.1, items.foldl second state.2) := by
  induction items generalizing state with
  | nil => rfl
  | cons item items ih => exact ih _

theorem lookup_map (keys : List κ) (values : κ → ν) (k : κ) :
    (keys.map fun other ↦ (other, values other)).lookup k =
      if k ∈ keys then some (values k) else none := by
  induction keys with
  | nil => rfl
  | cons other keys ih =>
      rw [List.map_cons, List.lookup_cons, ih]
      by_cases h : k = other
      · simp [h]
      · simp [beq_eq_false_iff_ne.mpr h, h]

/-- A dictionary is filled alike from two lists that agree in what they are read for. -/
theorem collect_map {β : Type*} (f : β → α) (key : α → κ) (start : ν) (change : α → ν → ν)
    (items : List β) : collect key start change (items.map f) =
      collect (key ∘ f) start (change ∘ f) items := by
  simp [collect, List.foldl_map]

/-! ### Counters -/

/-- `counter[key(item)] += 1` for every item. -/
def tally (key : α → κ) (items : List α) : Dict κ ℕ :=
  collect key 0 (fun _ count ↦ count + 1) items

/-- `counter[key]`. -/
def count (counter : Dict κ ℕ) (k : κ) : ℕ := (counter.lookup k).getD 0

/-- A counter counts the items of each key. -/
theorem count_tally (key : α → κ) (items : List α) (k : κ) :
    count (tally key items) k = items.countP fun item ↦ decide (key item = k) := by
  rw [count, tally, collect_eq, lookup_map, List.countP_eq_length_filter]
  split
  · simp [part]
  · next hk =>
      have hnone : items.filter (fun item ↦ decide (key item = k)) = [] := by
        refine List.filter_eq_nil_iff.mpr fun item hitem ↦ ?_
        rw [List.mem_eraseDups] at hk
        simpa using fun heq ↦ hk (List.mem_map.mpr ⟨item, hitem, heq⟩)
      simp [hnone]

/-- The entries of a counter: each key of the list with the number of its items. -/
theorem mem_tally {key : α → κ} {items : List α} {entry : κ × ℕ} (h : entry ∈ tally key items) :
    entry.1 ∈ items.map key ∧ entry.2 = (part key items entry.1).length := by
  rw [tally, collect_eq] at h
  obtain ⟨k, hk, rfl⟩ := List.mem_map.mp h
  exact ⟨List.mem_eraseDups.mp hk, by simp⟩

/-- The counts of all keys sum to the length of the list. -/
theorem sum_tally (key : α → κ) (items : List α) :
    ((tally key items).map Prod.snd).sum = items.length := by
  have hcover : ∀ item ∈ items, key item ∈ (items.map key).eraseDups :=
    fun item hitem ↦ List.mem_eraseDups.mpr (List.mem_map_of_mem hitem)
  have hparts := sum_countP_part (nodup_eraseDups _) hcover fun _ ↦ true
  simp only [List.countP_true] at hparts
  rw [tally, collect_eq, List.map_map, ← hparts]
  refine congrArg List.sum (List.map_congr_left fun k _ ↦ ?_)
  simp

/-- Over distinct keys that cover the list, the counts sum to its length. -/
theorem sum_count_tally {key : α → κ} {keys : List κ} (hnodup : keys.Nodup) {items : List α}
    (hcover : ∀ item ∈ items, key item ∈ keys) :
    (keys.map (count (tally key items))).sum = items.length := by
  have hparts := sum_countP_part hnodup hcover fun _ ↦ true
  simp only [List.countP_true] at hparts
  rw [← hparts]
  refine congrArg List.sum (List.map_congr_left fun k _ ↦ ?_)
  rw [count_tally, List.countP_eq_length_filter, part]

/-- `counters[outer(item)][inner(item)] += 1` for every item. -/
def tallyBy {ι : Type*} [DecidableEq ι] (outer : α → κ) (inner : α → ι) (items : List α) :
    Dict κ (Dict ι ℕ) :=
  collect outer [] (fun item ↦ upsert (inner item) 0 (· + 1)) items

/-- The counts of one inner key sum to its count in the whole list. -/
theorem sum_count_tallyBy {ι : Type*} [DecidableEq ι] (outer : α → κ) (inner : α → ι)
    (items : List α) (i : ι) :
    ((tallyBy outer inner items).map fun entry ↦ count entry.2 i).sum =
      count (tally inner items) i := by
  have hcover : ∀ item ∈ items, outer item ∈ (items.map outer).eraseDups :=
    fun item hitem ↦ List.mem_eraseDups.mpr (List.mem_map_of_mem hitem)
  rw [count_tally, ← sum_countP_part (nodup_eraseDups _) hcover, tallyBy, collect_eq, List.map_map]
  refine congrArg List.sum (List.map_congr_left fun k _ ↦ ?_)
  exact count_tally inner (part outer items k) i

/-! ### Lists of members -/

/-- `groups[key(item)].append(member(item))` for every item. -/
def gather {β : Type*} (key : α → κ) (member : α → β) (items : List α) : Dict κ (List β) :=
  collect key [] (fun item members ↦ members ++ [member item]) items

section Gather

variable {β : Type*} (key : α → κ) (member : α → β) (items : List α)

theorem foldl_append_member (start : List β) :
    items.foldl (fun members item ↦ members ++ [member item]) start = start ++ items.map member := by
  induction items generalizing start with
  | nil => simp
  | cons item items ih => simp [ih]

theorem gather_eq : gather key member items =
    (items.map key).eraseDups.map fun k ↦ (k, (part key items k).map member) := by
  rw [gather, collect_eq]
  simp only [foldl_append_member, List.nil_append]

/-- No group is empty, and it holds its members in the order of the list. -/
theorem mem_gather {group : κ × List β} (h : group ∈ gather key member items) :
    group.1 ∈ items.map key ∧ group.2 = (part key items group.1).map member := by
  rw [gather_eq] at h
  obtain ⟨k, hk, rfl⟩ := List.mem_map.mp h
  exact ⟨List.mem_eraseDups.mp hk, rfl⟩

/-- The groups put together are the members in another order. -/
theorem flatMap_gather_perm :
    ((gather key member items).flatMap Prod.snd).Perm (items.map member) := by
  have hcover : ∀ item ∈ items, key item ∈ (items.map key).eraseDups :=
    fun item hitem ↦ List.mem_eraseDups.mpr (List.mem_map_of_mem hitem)
  rw [gather_eq, List.flatMap_map]
  have hparts := (flatMap_part_perm key (nodup_eraseDups _) hcover).map member
  rwa [List.map_flatMap] at hparts

theorem nodup_keys_gather : ((gather key member items).map Prod.fst).Nodup :=
  nodup_keys_collect _ _ _ _

/-- The sizes of the groups sum to the length of the list. -/
theorem sum_length_gather :
    ((gather key member items).map fun group ↦ group.2.length).sum = items.length := by
  have hlength := (flatMap_gather_perm key member items).length_eq
  rwa [List.length_flatMap, List.length_map] at hlength

/-- Every item is in the one group under its key. -/
theorem existsUnique_gather {item : α} (h : item ∈ items) :
    ∃! group, group ∈ gather key id items ∧ item ∈ group.2 := by
  refine ⟨(key item, part key items (key item)), ⟨?_, (mem_part key).mpr ⟨h, rfl⟩⟩, ?_⟩
  · rw [gather_eq]
    refine List.mem_map.mpr ⟨key item, List.mem_eraseDups.mpr (List.mem_map_of_mem h), ?_⟩
    rw [List.map_id]
  · rintro ⟨k, members⟩ ⟨hgroup, hitem⟩
    have hmembers : members = (part key items k).map id := (mem_gather key id items hgroup).2
    rw [List.map_id] at hmembers
    subst hmembers
    rw [((mem_part key).mp hitem).2]

end Gather

end Dictionaries

end ReflectNanobind.Library.Grouping
