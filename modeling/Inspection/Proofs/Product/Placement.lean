import Inspection.Product.Placement
import Inspection.Proofs.Product.Ordering

/-!
# Where points are shown

A group is shown before another one if its order is lower, or if the orders are the same and it is
declared before it (`ShownFirst`). An item is at `Home` in the first group that lists it, and
`Unlisted` if there is none. Taking the items of a group out of the points that remain gives their
points in the order in which they are listed, and leaves the others as they were
(`takes_takeItems`). So a point that remains is listed by none of the groups that have had their
turn (`Awaits`), and each group gets the points that are at home there. All points are shown once
(`perm_place`), where they are at home (`housed_place`) and in the order of their homes
(`pairwise_place`), however groups overlap, repeat items or name unknown ones
(`placements_ordered`).
-/

namespace Inspection

namespace Placement

/-- A group that stands at a position among those declared is shown before another one. -/
def ShownFirst (g h : Group × Nat) : Prop :=
  g.1.order < h.1.order ∨ g.1.order = h.1.order ∧ g.2 < h.2

/-- The first group to be shown of those that list an item. -/
structure Home (groups : List (Group × Nat)) (item : String) (home : Group × Nat) : Prop where
  mem : home ∈ groups
  lists : item ∈ home.1.items
  first : ∀ other ∈ groups, item ∈ other.1.items → other = home ∨ ShownFirst home other

/-- No group lists the item. -/
def Unlisted (groups : List (Group × Nat)) (item : String) : Prop :=
  ∀ group ∈ groups, item ∉ group.1.items

/-- A point is shown in the group where it is at home, or as ungrouped if no group lists it. -/
inductive Housed (groups : List (Group × Nat)) : Placement → Prop where
  | listed {home point} :
    Home groups point.name home →
    Housed groups ⟨home.1.name, home.1.order, point⟩
  | unlisted {point} :
    Unlisted groups point.name →
    Housed groups ⟨ungroupedName, ungroupedOrder, point⟩

/-- One item is shown before another one: in an earlier group; in the same group, where it is listed
first; in a group, if no group lists the other one; or as declared, if no group lists either. -/
inductive ShownBefore (groups : List (Group × Nat)) (names : List String) (a b : String) :
    Prop where
  | group {home home'} :
    Home groups a home →
    Home groups b home' →
    ShownFirst home home' →
    ShownBefore groups names a b
  | item {home} :
    Home groups a home →
    Home groups b home →
    home.1.items.idxOf a < home.1.items.idxOf b →
    ShownBefore groups names a b
  | listed {home} :
    Home groups a home →
    Unlisted groups b →
    ShownBefore groups names a b
  | unlisted :
    Unlisted groups a →
    Unlisted groups b →
    Before names a b →
    ShownBefore groups names a b

/-- Groups are sorted by their order, and those of one order by their position. -/
lemma shownFirst_of_zipIdxLE {g h : Group × Nat} (other : g.2 ≠ h.2)
    (first : List.zipIdxLE (fun a b : Group => decide (a.order ≤ b.order)) g h = true) :
    ShownFirst g h := by
  simp only [List.zipIdxLE, decide_eq_true_eq, Bool.if_false_right, Bool.and_eq_true] at first
  obtain ⟨le, earlier⟩ := first
  rcases Int.lt_or_eq_of_le le with lower | same
  · exact .inl lower
  · rw [if_pos same.ge, decide_eq_true_eq] at earlier
    exact .inr ⟨same, Nat.lt_of_le_of_ne earlier other⟩

end Placement

namespace Product

open Placement

/-- A table of points has each under its own name. -/
def ByName (left : Table Point) : Prop :=
  ∀ entry ∈ left.entries, entry.2.name = entry.1

namespace ByName

variable {left : Table Point}

/-- What is found under a name is the point of that name. -/
lemma find?_eq_some (byName : ByName left) {item : String} {point : Point} :
    left.find? item = some point ↔ point ∈ left.values ∧ point.name = item := by
  rw [Table.find?_eq_some, Table.values, List.mem_map]
  constructor
  · intro mem
    exact ⟨⟨_, mem, rfl⟩, byName _ mem⟩
  · rintro ⟨⟨⟨key, other⟩, mem, rfl⟩, rfl⟩
    exact byName _ mem ▸ mem

/-- The points have distinct names. -/
lemma nodup_names (byName : ByName left) : (left.values.map Point.name).Nodup := by
  have names : left.values.map Point.name = left.keys := by
    rw [Table.values, List.map_map, Table.keys]
    exact List.map_congr_left byName
  rw [names]
  exact left.distinct

/-- What is left when a name is removed are the points of other names. -/
lemma values_erase (byName : ByName left) (item : String) :
    (left.erase item).values = left.values.filter (·.name ≠ item) := by
  rw [Table.values, Table.values, Table.erase, List.filter_map]
  congr 1
  apply List.filter_congr
  intro entry mem
  rw [Function.comp, byName entry mem, decide_not, bne, beq_eq_decide]

/-- A table from which a name is removed has each point under its name. -/
lemma erase (byName : ByName left) (item : String) : ByName (left.erase item) :=
  fun entry mem => byName entry (List.mem_of_mem_filter mem)

end ByName

/-- What comes of taking items out of the points that remain: their points in the order in which the
items are listed first, and the others as they were. -/
structure Takes (left : Table Point) (items : List String) (taken : List Point)
    (rest : Table Point) : Prop where
  byName : ByName rest
  kept : rest.values = left.values.filter (·.name ∉ items)
  mem : ∀ point, point ∈ taken ↔ point ∈ left.values ∧ point.name ∈ items
  ordered : taken.Pairwise fun a b => items.idxOf a.name < items.idxOf b.name

/-- Points in the order of items are in the order of one more item and these, if none of them is the
first. -/
lemma pairwise_idxOf_cons {taken : List Point} {items : List String} {item : String}
    (ordered : taken.Pairwise fun a b => items.idxOf a.name < items.idxOf b.name)
    (others : ∀ other ∈ taken, other.name ≠ item) :
    taken.Pairwise fun a b => (item :: items).idxOf a.name < (item :: items).idxOf b.name := by
  refine ordered.imp_of_mem ?_
  intro a b ha hb before
  rw [List.idxOf_cons_ne _ (others a ha).symm, List.idxOf_cons_ne _ (others b hb).symm]
  exact Nat.succ_lt_succ before

namespace Takes

variable {left rest : Table Point} {items : List String} {taken : List Point} {item : String}
  {point : Point}

/-- Without items nothing is taken. -/
lemma nil (byName : ByName left) : Takes left [] [] left where
  byName := byName
  kept := by simp
  mem := by simp
  ordered := .nil

/-- An item that is none of the points that remain is passed over. -/
lemma skip (byName : ByName left) (absent : left.find? item = none)
    (takes : Takes left items taken rest) : Takes left (item :: items) taken rest := by
  have others : ∀ other ∈ left.values, other.name ≠ item := by
    intro other mem name
    rw [byName.find?_eq_some.2 ⟨mem, name⟩] at absent
    cases absent
  refine ⟨takes.byName, ?_, ?_, ?_⟩
  · rw [takes.kept]
    apply List.filter_congr
    intro other mem
    simp [others other mem]
  · intro other
    rw [takes.mem, List.mem_cons]
    exact and_congr_right fun mem => (or_iff_right (others other mem)).symm
  · apply pairwise_idxOf_cons takes.ordered
    exact fun other mem => others other ((takes.mem other).1 mem).1

/-- The point of an item is taken before those of the items after it. -/
lemma cons (byName : ByName left) (found : left.find? item = some point)
    (takes : Takes (left.erase item) items taken rest) :
    Takes left (item :: items) (point :: taken) rest := by
  obtain ⟨there, rfl⟩ := byName.find?_eq_some.1 found
  have others : ∀ other, other ∈ taken ↔
      (other ∈ left.values ∧ other.name ≠ point.name) ∧ other.name ∈ items := by
    intro other
    rw [takes.mem, byName.values_erase, List.mem_filter, decide_eq_true_iff]
  refine ⟨takes.byName, ?_, ?_, ?_⟩
  · rw [takes.kept, byName.values_erase, List.filter_filter]
    apply List.filter_congr
    intro other _
    simp [Bool.and_comm]
  · intro other
    rw [List.mem_cons, List.mem_cons, others]
    constructor
    · rintro (rfl | ⟨⟨mem, -⟩, listed⟩)
      · exact ⟨there, .inl rfl⟩
      · exact ⟨mem, .inr listed⟩
    · rintro ⟨mem, listed⟩
      by_cases own : other.name = point.name
      · exact .inl (List.inj_on_of_nodup_map byName.nodup_names mem there own)
      · exact .inr ⟨⟨mem, own⟩, listed.resolve_left own⟩
  · have new : ∀ other ∈ taken, other.name ≠ point.name :=
      fun other mem => ((others other).1 mem).1.2
    refine .cons ?_ (pairwise_idxOf_cons takes.ordered new)
    intro other mem
    rw [List.idxOf_cons_self, List.idxOf_cons_ne _ (new other mem).symm]
    exact Nat.succ_pos _

/-- A point that is left is none of the items. -/
lemma notMem_of_kept (takes : Takes left items taken rest) (mem : point ∈ rest.values) :
    point ∈ left.values ∧ point.name ∉ items := by
  rw [takes.kept, List.mem_filter, decide_eq_true_iff] at mem
  exact mem

/-- The points are those that are taken and those that are left. -/
lemma perm (byName : ByName left) (takes : Takes left items taken rest) :
    (taken ++ rest.values).Perm left.values := by
  have distinct : taken.Nodup := takes.ordered.imp fun before same => by
    rw [same] at before
    exact Nat.lt_irrefl _ before
  have all : taken.Perm (left.values.filter (·.name ∈ items)) := by
    rw [List.perm_ext_iff_of_nodup distinct (byName.nodup_names.of_map.filter _)]
    intro point
    rw [takes.mem, List.mem_filter, decide_eq_true_iff]
  have kept : rest.values = left.values.filter fun point => !decide (point.name ∈ items) := by
    rw [takes.kept]
    simp
  rw [kept]
  exact (all.append_right _).trans (List.filter_append_perm _ _)

end Takes

/-- Items are taken out of the points that remain one after the other. -/
lemma takes_takeItems {left : Table Point} (byName : ByName left) (items : List String) :
    Takes left items (takeItems left items).1 (takeItems left items).2 := by
  induction items generalizing left with
  | nil => exact .nil byName
  | cons item items ih =>
    rw [takeItems]
    cases found : left.find? item with
    | none => exact .skip byName found (ih byName)
    | some point => exact .cons byName found (ih (byName.erase item))

/-- What holds when some groups are still to come: they come in the order in which they are shown,
and no other group lists a point that remains. -/
structure Awaits (groups : List (Group × Nat)) (names : List String)
    (coming : List (Group × Nat)) (left : Table Point) : Prop where
  byName : ByName left
  declared : (left.values.map Point.name).Sublist names
  sorted : coming.Pairwise ShownFirst
  known : coming ⊆ groups
  listing : ∀ point ∈ left.values, ∀ group ∈ groups, point.name ∈ group.1.items → group ∈ coming

namespace Awaits

variable {groups coming : List (Group × Nat)} {names : List String} {left rest : Table Point}
  {group : Group × Nat} {taken : List Point} {point : Point}

/-- A point that the next group takes is at home there. -/
lemma home (aw : Awaits groups names (group :: coming) left)
    (takes : Takes left group.1.items taken rest) (mem : point ∈ taken) :
    Home groups point.name group := by
  obtain ⟨old, lists⟩ := (takes.mem point).1 mem
  refine ⟨aw.known List.mem_cons_self, lists, ?_⟩
  intro other there listed
  rcases List.mem_cons.1 (aw.listing point old other there listed) with rfl | later
  · exact .inl rfl
  · exact .inr (List.rel_of_pairwise_cons aw.sorted later)

/-- When no group is to come, none lists a point that remains. -/
lemma unlisted (aw : Awaits groups names [] left) (mem : point ∈ left.values) :
    Unlisted groups point.name :=
  fun group there listed => List.not_mem_nil (aw.listing point mem group there listed)

/-- When a group has taken its points, the next ones are to come. -/
lemma take (aw : Awaits groups names (group :: coming) left)
    (takes : Takes left group.1.items taken rest) : Awaits groups names coming rest where
  byName := takes.byName
  declared := by
    rw [takes.kept]
    exact (List.filter_sublist.map _).trans aw.declared
  sorted := aw.sorted.of_cons
  known := fun _ mem => aw.known (List.mem_cons_of_mem _ mem)
  listing := by
    intro point mem other there listed
    obtain ⟨old, new⟩ := takes.notMem_of_kept mem
    rcases List.mem_cons.1 (aw.listing point old other there listed) with rfl | later
    · exact absurd listed new
    · exact later

/-- A point that the next group takes is shown before those that remain then. -/
lemma before (aw : Awaits groups names (group :: coming) left)
    (takes : Takes left group.1.items taken rest) (mem : point ∈ taken) {placement : Placement}
    (housed : Housed groups placement) (there : placement.point ∈ rest.values) :
    ShownBefore groups names point.name placement.point.name := by
  have home := aw.home takes mem
  cases housed with
  | @listed home' other own =>
    have later := (aw.take takes).listing other there home' own.mem own.lists
    exact .group home own (List.rel_of_pairwise_cons aw.sorted later)
  | unlisted free => exact .listed home free

end Awaits

/-- Every point that remains is placed once. -/
lemma perm_place {left : Table Point} (byName : ByName left) (groups : List Group) :
    ((place left groups).map Placement.point).Perm left.values := by
  induction groups generalizing left with
  | nil =>
    rw [place, List.map_map]
    exact .of_eq (List.map_id _)
  | cons group groups ih =>
    have takes := takes_takeItems byName group.items
    rw [place, List.map_append, List.map_map]
    have own : (takeItems left group.items).1.map
        (Placement.point ∘ fun point => ⟨group.name, group.order, point⟩) =
          (takeItems left group.items).1 := List.map_id _
    rw [own]
    exact ((ih takes.byName).append_left _).trans (takes.perm byName)

section

variable {groups coming : List (Group × Nat)} {names : List String} {left : Table Point}

/-- Every point that remains is placed where it is at home. -/
lemma housed_place (aw : Awaits groups names coming left) :
    ∀ placement ∈ place left (coming.map Prod.fst), Housed groups placement := by
  induction coming generalizing left with
  | nil =>
    intro placement mem
    rw [List.map_nil, place] at mem
    obtain ⟨point, there, rfl⟩ := List.mem_map.1 mem
    exact .unlisted (aw.unlisted there)
  | cons group coming ih =>
    have takes := takes_takeItems aw.byName group.1.items
    intro placement mem
    rw [List.map_cons, place] at mem
    rcases List.mem_append.1 mem with mem | mem
    · obtain ⟨point, there, rfl⟩ := List.mem_map.1 mem
      exact .listed (aw.home takes there)
    · exact ih (aw.take takes) placement mem

/-- The points that remain are placed in the order in which they are to be shown. -/
lemma pairwise_place (aw : Awaits groups names coming left) :
    (place left (coming.map Prod.fst)).Pairwise fun a b =>
      ShownBefore groups names a.point.name b.point.name := by
  induction coming generalizing left with
  | nil =>
    rw [List.map_nil, place, List.pairwise_map, List.pairwise_iff_forall_sublist]
    intro a b sub
    have ha : a ∈ left.values := sub.subset (by simp)
    have hb : b ∈ left.values := sub.subset (by simp)
    exact .unlisted (aw.unlisted ha) (aw.unlisted hb) ((sub.map Point.name).trans aw.declared)
  | cons group coming ih =>
    have takes := takes_takeItems aw.byName group.1.items
    have later := aw.take takes
    rw [List.map_cons, place, List.pairwise_append, List.pairwise_map]
    refine ⟨?_, ih later, ?_⟩
    -- the points of the group are in the order of its items, and come before the others
    · refine takes.ordered.imp_of_mem ?_
      intro a b ha hb before
      exact .item (aw.home takes ha) (aw.home takes hb) before
    · intro first mem placement there
      obtain ⟨point, taken, rfl⟩ := List.mem_map.1 mem
      have remains := (perm_place takes.byName _).subset (List.mem_map_of_mem there)
      exact aw.before takes taken (housed_place later placement there) remains

end

/-- The groups in the order in which they are shown, each with its position among those declared. -/
lemma exists_numbered (p : Product) : ∃ numbered : List (Group × Nat),
    numbered.map Prod.fst = p.sortedGroups ∧ numbered.Perm p.groups.zipIdx ∧
      numbered.Pairwise ShownFirst := by
  let le (a b : Group) : Bool := a.order ≤ b.order
  have perm := List.mergeSort_perm p.groups.zipIdx (List.zipIdxLE le)
  refine ⟨p.groups.zipIdx.mergeSort (List.zipIdxLE le), List.mergeSort_zipIdx, perm, ?_⟩
  have trans : ∀ a b c, le a b → le b c → le a c := by
    intro a b c
    simpa [le] using Int.le_trans
  have total : ∀ a b, le a b || le b a := by
    intro a b
    simpa [le] using Int.le_total a.order b.order
  have sorted := List.pairwise_mergeSort (List.zipIdxLE_trans trans) (List.zipIdxLE_total total)
    p.groups.zipIdx
  have apart : ((p.groups.zipIdx.mergeSort (List.zipIdxLE le)).map Prod.snd).Nodup := by
    rw [(perm.map Prod.snd).nodup_iff, List.zipIdx_map_snd]
    exact List.nodup_range'
  exact (sorted.and (List.pairwise_map.1 apart)).imp fun h => shownFirst_of_zipIdxLE h.2 h.1

section

variable {p : Product} (distinct : (p.points.map Point.name).Nodup)

include distinct

/-- A table of points with distinct names has them in the order in which they are declared. -/
lemma entries_points : (Table.ofList (p.points.map fun point => (point.name, point))).entries =
    p.points.map fun point => (point.name, point) :=
  Table.entries_ofList (by rwa [List.map_map])

/-- All points with distinct names remain before any group has taken its own. -/
lemma values_points :
    (Table.ofList (p.points.map fun point => (point.name, point))).values = p.points := by
  rw [Table.values, entries_points distinct, List.map_map]
  exact List.map_id _

/-- All points remain while all groups are to come. -/
lemma awaits_points {numbered : List (Group × Nat)} (perm : numbered.Perm p.groups.zipIdx)
    (sorted : numbered.Pairwise ShownFirst) :
    Awaits p.groups.zipIdx (p.points.map Point.name) numbered
      (.ofList (p.points.map fun point => (point.name, point))) where
  byName := by
    intro entry mem
    rw [entries_points distinct] at mem
    obtain ⟨point, -, rfl⟩ := List.mem_map.1 mem
    rfl
  declared := by rw [values_points distinct]
  sorted := sorted
  known := perm.subset
  listing := fun _ _ _ there _ => perm.mem_iff.2 there

end

/-- **Points are shown once each, group by group.** Where names are distinct, however groups
overlap, repeat items or name unknown ones: each point is shown just once; in the first group that
lists it, by order and then by position, or as ungrouped if no group does; and those of earlier
groups come before those of later ones, those of a group as it lists them, and the ungrouped ones
come last as they are declared. -/
theorem placements_ordered {p : Product} (distinct : (p.points.map Point.name).Nodup) :
    (p.placements.map Placement.point).Perm p.points ∧
      (∀ placement ∈ p.placements, Housed p.groups.zipIdx placement) ∧
      p.placements.Pairwise fun a b =>
        ShownBefore p.groups.zipIdx (p.points.map Point.name) a.point.name b.point.name := by
  obtain ⟨numbered, groups, perm, sorted⟩ := p.exists_numbered
  have aw := awaits_points distinct perm sorted
  have once := perm_place aw.byName p.sortedGroups
  rw [values_points distinct] at once
  rw [← groups] at once
  rw [placements, ← groups]
  exact ⟨once, housed_place aw, pairwise_place aw⟩

end Product

namespace Rods

/-- Four rods in groups that overlap: the inner rod is listed by two of them and twice by one, the
outer rod by two of one order, and the spare rod by none. A tape is listed too, which is no rod. -/
def grouped : Product :=
  { product none with
    points := [rod "spare" none, rod "inner" none, rod "outer" none, rod "cap" none]
    groups := [⟨"Outside", 2, ["cap", "tape", "outer", "inner"]⟩,
      ⟨"Inside", 1, ["inner", "inner"]⟩, ⟨"Again", 2, ["outer"]⟩] }

/-- The inner rod is shown first, then the cap and the outer rod in the earlier of the groups of one
order, and last the spare one. -/
theorem placements_grouped :
    (grouped.points.map Point.name).Nodup ∧
      (grouped.placements.map fun place => (place.group, place.order, place.point.name)) =
        [("Inside", 1, "inner"), ("Outside", 2, "cap"), ("Outside", 2, "outer"),
          ("Ungrouped", 999, "spare")] ∧
      (grouped.placements.map Placement.point).Perm grouped.points ∧
      (∀ placement ∈ grouped.placements, Placement.Housed grouped.groups.zipIdx placement) ∧
      grouped.placements.Pairwise fun a b =>
        Placement.ShownBefore grouped.groups.zipIdx ["spare", "inner", "outer", "cap"]
          a.point.name b.point.name := by
  have distinct : (grouped.points.map Point.name).Nodup := by decide
  have sorted : grouped.sortedGroups =
      [⟨"Inside", 1, ["inner", "inner"]⟩, ⟨"Outside", 2, ["cap", "tape", "outer", "inner"]⟩,
        ⟨"Again", 2, ["outer"]⟩] := by
    simp [grouped, Product.sortedGroups, List.mergeSort]
  refine ⟨distinct, ?_, Product.placements_ordered distinct⟩
  rw [Product.placements, sorted]
  rfl

end Rods

end Inspection
