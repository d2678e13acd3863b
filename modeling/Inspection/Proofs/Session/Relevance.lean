import Inspection.Proofs.Session.Preview

/-!
# What a preview depends on

A preview depends on those submissions of its request only that its item needs. Two requests share
them (`Product.Shares`) if each submission of an item that is needed within the one is in the other.
Then the same items are needed within both (`Product.Shares.needs`), the walk that finds them goes
the same way (`Product.requestDependencies_congr`), they are evaluated alike one after the other
(`Session.evaluateAll_withSubmissions`), and so is the item (`Session.evaluateItem_relevant`). What
other items are handed in, in which order, and whether they could be evaluated at all makes no
difference.
-/

namespace Inspection

namespace Product

variable {p : Product} {available available' : List String} {target x : String}

/-- What is needed is also needed among other available items that have all of it. -/
lemma Needs.transfer (kept : ∀ n, p.Needs available target n → n ∈ available')
    (needs : p.Needs available target x) : p.Needs available' target x := by
  induction needs with
  | direct read mem other => exact .direct read (kept _ (.direct read mem other)) other
  | through needs read mem other ih =>
    exact .through ih read (kept _ (.through needs read mem other)) other

/-- Among available items of which the same are needed, a walk finds the same in the same order. -/
lemma reachable_congr (told : ∀ item, p.references item = .ok (p.reads item))
    (same : ∀ n, p.Needs available target n ↔ p.Needs available' target n)
    {found pending : List String} (explored : Explored p available target found pending)
    (explored' : Explored p available' target found pending) :
    p.reachable available target found pending = p.reachable available' target found pending := by
  induction found, pending using reachable.induct p available target with
  | case1 found => rw [reachable, reachable]
  | case2 found item rest new failure failed =>
    rw [told item] at failed
    cases failed
  | case3 found item rest new items read ih =>
    obtain rfl : p.reads item = items := Except.ok.inj ((told item).symm.trans read)
    have needs := explored.awaited item List.mem_cons_self new.1 new.2.2
    have new' : item ∈ available' ∧ item ∉ found ∧ item ≠ target :=
      ⟨((same item).1 needs).mem, new.2⟩
    rw [reachable, dif_pos new, reachable, dif_pos new', told item]
    exact ih (explored.take new) (explored'.take new')
  | case4 found item rest old ih =>
    have old' : ¬(item ∈ available' ∧ item ∉ found ∧ item ≠ target) := by
      rintro ⟨mem, fresh⟩
      have needs := explored'.awaited item List.mem_cons_self mem fresh.2
      exact old ⟨((same item).2 needs).mem, fresh⟩
    rw [reachable, dif_neg old, reachable, dif_neg old']
    exact ih (explored.skip old) (explored'.skip old')

/-- The dependencies of a point are the same, in the same order, within requests that provide the
same of what it needs. -/
lemma requestDependencies_congr (points : ∀ point ∈ p.points, point.Sound) {point : Point}
    (found : p.point? target = some point)
    (same : ∀ n, p.Needs available target n ↔ p.Needs available' target n) :
    p.requestDependencies point available = p.requestDependencies point available' := by
  have told := references_eq_ok points
  obtain ⟨-, rfl⟩ := point?_eq_some found
  rw [requestDependencies, requestDependencies, ← references_of_point? found, told]
  exact reachable_congr told same .start .start

/-- Two requests have the same submissions for what an item needs: each submission of an item that
is needed within the one is in the other. -/
structure Shares (p : Product) (target : String) (others others' : List Submission) : Prop where
  left : ∀ x ∈ others, p.Needs (others.map Submission.item) target x.item → x ∈ others'
  right : ∀ x ∈ others', p.Needs (others'.map Submission.item) target x.item → x ∈ others

namespace Shares

variable {others others' : List Submission}

/-- Which request is named first does not matter. -/
lemma symm (shares : p.Shares target others others') : p.Shares target others' others :=
  ⟨shares.right, shares.left⟩

/-- What is needed within the one request is needed within the other. -/
lemma needs_of_needs (shares : p.Shares target others others')
    (needs : p.Needs (others.map Submission.item) target x) :
    p.Needs (others'.map Submission.item) target x := by
  refine needs.transfer fun n needs => ?_
  obtain ⟨y, hy, rfl⟩ := List.mem_map.1 needs.mem
  exact List.mem_map_of_mem (shares.left y hy needs)

/-- The same items are needed within both requests. -/
lemma needs (shares : p.Shares target others others') :
    p.Needs (others.map Submission.item) target x ↔
      p.Needs (others'.map Submission.item) target x :=
  ⟨shares.needs_of_needs, shares.symm.needs_of_needs⟩

/-- For what the item reads, or something that it needs, both requests have the same submission or
none. -/
lemma mem_iff (shares : p.Shares target others others') {y n : String}
    (concerned : y = target ∨ p.Needs (others.map Submission.item) target y)
    (read : n ∈ p.reads y) (other : n ≠ target) {z : Submission} (name : z.item = n) :
    z ∈ others ↔ z ∈ others' := by
  have needs : ∀ {l : List Submission}, (y = target ∨ p.Needs (l.map Submission.item) target y) →
      z ∈ l → p.Needs (l.map Submission.item) target z.item := by
    intro l concerned mem
    have there : z.item ∈ l.map Submission.item := List.mem_map_of_mem mem
    rw [← name] at read other
    rcases concerned with rfl | needs
    · exact .direct read there other
    · exact .through needs read there other
  exact ⟨fun mem => shares.left z mem (needs concerned mem), fun mem =>
    shares.right z mem (needs (concerned.imp_right shares.needs.1) mem)⟩

end Shares

end Product

namespace Context

/-- A context that shows other submissions. -/
def withSubmissions (c : Context) (submissions : Table Submission) : Context :=
  { c with submissions := submissions }

/-- What has the same submissions for some items shows the same of them. -/
lemma agree_withSubmissions {c : Context} {items : List String} {t t' : Table Submission}
    (same : ∀ n ∈ items, t.find? n = t'.find? n) :
    Agree items (c.withSubmissions t) (c.withSubmissions t') := by
  refine .of_values rfl fun n mem => ?_
  rw [values, values, withSubmissions, withSubmissions]
  dsimp only
  rw [same n mem]
  rfl

end Context

namespace Session

variable {s : Session} {product : Product} {others others' : List Submission}

/-- The submission of another item than the point's is the one of the request. -/
lemma find?_othersOf {point : Point} (distinct : (others.map Submission.item).Nodup) {n : String}
    {x : Submission} : (othersOf point others).find? n = some x ↔
      x ∈ others ∧ x.item ≠ point.name ∧ x.item = n := by
  have once : ((others.filter fun x => x.item ≠ point.name).map Submission.item).Nodup :=
    (List.filter_sublist.map _).nodup distinct
  rw [show othersOf point others =
    Submission.table (others.filter fun x => x.item ≠ point.name) from rfl,
    Submission.find?_table once, List.mem_filter, decide_eq_true_eq, and_assoc]

/-- The other items are those of the request but for the point's. -/
lemma mem_keys_othersOf {point : Point} {n : String} :
    n ∈ (othersOf point others).keys ↔ n ∈ others.map Submission.item ∧ n ≠ point.name := by
  rw [show othersOf point others =
    Submission.table (others.filter fun x => x.item ≠ point.name) from rfl,
    Submission.mem_keys_table, List.mem_map, List.mem_map]
  constructor
  · rintro ⟨x, mem, rfl⟩
    obtain ⟨mem, other⟩ := List.mem_filter.1 mem
    exact ⟨⟨x, mem, rfl⟩, by simpa using other⟩
  · rintro ⟨⟨x, mem, rfl⟩, other⟩
    exact ⟨x, List.mem_filter.2 ⟨mem, by simpa using other⟩, rfl⟩

/-- For a point the same is needed among the other items as within the request. -/
lemma needs_othersOf {point : Point} {n : String} :
    product.Needs (othersOf point others).keys point.name n ↔
      product.Needs (others.map Submission.item) point.name n := by
  constructor
  · intro needs
    exact needs.transfer fun m needs => (mem_keys_othersOf.1 needs.mem).1
  · intro needs
    refine needs.transfer fun m needs => mem_keys_othersOf.2 ⟨needs.mem, ?_⟩
    cases needs with
    | direct _ _ other => exact other
    | through _ _ _ other => exact other

/-- Items are evaluated alike, one after the other, in contexts that show the same submissions of
what they read; the results become visible in both. -/
lemma evaluateAll_withSubmissions (sound : product.Sound) {available available' : Table Submission}
    {t t' : Table Submission} {order : List String} {c : Context}
    (given : ∀ n ∈ order, available.find? n = available'.find? n)
    (same : ∀ n ∈ order, ∀ z ∈ product.reads n, t.find? z = t'.find? z) :
    evaluateAll product available' (c.withSubmissions t') order =
      (evaluateAll product available (c.withSubmissions t) order).map
        (Context.withSubmissions · t') := by
  induction order generalizing c with
  | nil => rfl
  | cons n rest ih =>
    have ih' := fun c => @ih c (fun m mem => given m (List.mem_cons_of_mem _ mem))
      fun m mem => same m (List.mem_cons_of_mem _ mem)
    rw [evaluateAll, evaluateAll, ← given n List.mem_cons_self]
    cases known : product.point? n with
    | none => simp [pointOf, known, raise, Except.map]
    | some point =>
      rw [pointOf_eq_ok.2 known, ok_bind, ok_bind]
      cases available.find? n with
      | none => exact ih' c
      | some x =>
        have alike := sound.evaluate_congr known
          (Context.agree_withSubmissions (c := c) (same n List.mem_cons_self)) x false
        dsimp only
        rw [← alike]
        cases point.evaluate x (c.withSubmissions t) false with
        | error fault => rfl
        | ok r => exact ih' (c.addResult r)

/-- Evaluations leave the submissions that a context shows. -/
lemma submissions_of_evaluateAll {available : Table Submission} {order : List String}
    {c d : Context} (h : evaluateAll product available c order = .ok d) :
    d.submissions = c.submissions := by
  induction order generalizing c with
  | nil =>
    cases h
    rfl
  | cons n rest ih =>
    obtain ⟨point, -, h⟩ := bind_eq_ok.1 h
    cases given : available.find? n with
    | none =>
      rw [given] at h
      exact ih h
    | some x =>
      rw [given] at h
      obtain ⟨r, -, h⟩ := bind_eq_ok.1 h
      exact (ih h).trans rfl

/-- What a preview's item, or something that it needs, reads of the requests that share what it
needs: it is handed in alike with both. -/
lemma find?_table_of_shares (sound : product.Sound) {target y z : String}
    (distinct : (others.map Submission.item).Nodup)
    (distinct' : (others'.map Submission.item).Nodup)
    (shares : product.Shares target others others')
    (concerned : y = target ∨ product.Needs (others.map Submission.item) target y)
    (read : z ∈ product.reads y) :
    (Submission.table others).find? z = (Submission.table others').find? z := by
  have leads : product.LeadsTo target z := by
    rcases concerned with rfl | needs
    · exact .single read
    · exact needs.leadsTo.tail read
  have other : z ≠ target := by
    rintro rfl
    exact sound.not_leadsTo_self _ leads
  apply Option.ext
  intro w
  rw [Submission.find?_table distinct, Submission.find?_table distinct']
  exact and_congr_left fun name => shares.mem_iff concerned read other name

/-- What a preview's item needs is handed in alike with requests that share it. -/
lemma find?_othersOf_of_shares {point : Point} {n : String}
    (distinct : (others.map Submission.item).Nodup)
    (distinct' : (others'.map Submission.item).Nodup)
    (shares : product.Shares point.name others others')
    (needs : product.Needs (others.map Submission.item) point.name n) :
    (othersOf point others).find? n = (othersOf point others').find? n := by
  apply Option.ext
  intro w
  rw [find?_othersOf distinct, find?_othersOf distinct']
  refine and_congr_left fun own => ?_
  obtain ⟨-, rfl⟩ := own
  exact ⟨fun mem => shares.left w mem needs, fun mem => shares.right w mem (shares.needs.1 needs)⟩

/-- The evaluation of a point after what it needs of a request: a preview once all is read. -/
def previewOf (s : Session) (product : Product) (b : Batch) (point : Point) (x : Submission)
    (others : List Submission) : Outcome Result := do
  let available := othersOf point others
  let needed ← Outcome.of (.ofFailure ·) (product.requestDependencies point available.keys)
  let order ← Outcome.of (.ofFailure ·) (product.evaluationOrder needed)
  let context ← evaluateAll product available (s.context b others) order
  point.evaluate x context true

/-- A preview whose request can be read and whose batch and product are there. -/
lemma evaluateItem_eq {id : String} {b : Batch} {item : Json} {rest : List Json}
    (loaded : s.batch id = .ok b) (found : s.product b.product = .ok product)
    (read : Submission.parseAll rest = .ok others) :
    s.evaluateItem id item rest = (do
      let x ← Submission.parse item
      let point ← pointOf product x.item
      s.previewOf product b point x others) := by
  simp only [Session.evaluateItem, read, loaded, found, ok_bind, previewOf]

/-- A point comes to the same after what it needs of requests that share it: the walk and the order
are the same, and so are the evaluations one after the other and the last one. -/
lemma previewOf_congr (sound : product.Sound) {b : Batch} {point : Point} {x : Submission}
    (known : product.point? point.name = some point)
    (distinct : (others.map Submission.item).Nodup)
    (distinct' : (others'.map Submission.item).Nodup)
    (shares : product.Shares point.name others others') :
    s.previewOf product b point x others = s.previewOf product b point x others' := by
  have needs : ∀ n, product.Needs (othersOf point others).keys point.name n ↔
      product.Needs (othersOf point others').keys point.name n := by
    intro n
    rw [needs_othersOf, needs_othersOf]
    exact shares.needs
  have walk := Product.requestDependencies_congr sound.points known needs
  obtain ⟨needed, dependencies, once, spec⟩ :=
    Product.requestDependencies_eq_ok sound.points known (othersOf point others).keys
  obtain ⟨order, ordered, arranged⟩ := sound.arrangement_evaluationOrder once
  have listed : ∀ n ∈ order, product.Needs (others.map Submission.item) point.name n :=
    fun n mem => needs_othersOf.1 ((spec n).1 (arranged.perm.subset mem))
  have shown : ∀ y, y = point.name ∨ product.Needs (others.map Submission.item) point.name y →
      ∀ z ∈ product.reads y,
        (Submission.table others).find? z = (Submission.table others').find? z :=
    fun y concerned z mem => find?_table_of_shares sound distinct distinct' shares concerned mem
  have all : evaluateAll product (othersOf point others') (s.context b others') order =
      (evaluateAll product (othersOf point others) (s.context b others) order).map
        (Context.withSubmissions · (Submission.table others')) :=
    evaluateAll_withSubmissions sound (c := s.context b others)
      (fun n mem => find?_othersOf_of_shares distinct distinct' shares (listed n mem))
      fun n mem => shown n (.inr (listed n mem))
  simp only [previewOf, ← walk, dependencies, ordered, Outcome.of, ok_bind, all]
  cases evaluated : evaluateAll product (othersOf point others) (s.context b others) order with
  | error fault => rfl
  | ok c =>
    have kept : c.submissions = Submission.table others := submissions_of_evaluateAll evaluated
    have agree : Context.Agree (product.reads point.name) (c.withSubmissions c.submissions)
        (c.withSubmissions (Submission.table others')) := by
      rw [kept]
      exact Context.agree_withSubmissions (shown point.name (.inl rfl))
    exact sound.evaluate_congr known agree x true

/-- **A preview sees exactly what it reads.** With requests that have the same submissions for what
the item needs, a preview comes to the same outcome, the result or the fault: whatever else is
handed in, in any order, and also where it could not be evaluated. -/
theorem evaluateItem_relevant {id : String} {b : Batch} {item : Json} {rest rest' : List Json}
    (accepted : product.check = .ok product) (loaded : s.batch id = .ok b)
    (found : s.product b.product = .ok product)
    (read : Submission.parseAll rest = .ok others)
    (read' : Submission.parseAll rest' = .ok others')
    (shares : ∀ x, Submission.parse item = .ok x → product.Shares x.item others others') :
    s.evaluateItem id item rest = s.evaluateItem id item rest' := by
  have sound := (Product.sound_of_check accepted).2
  have distinct := (Submission.parseAll_eq_ok.1 read).2
  have distinct' := (Submission.parseAll_eq_ok.1 read').2
  rw [evaluateItem_eq loaded found read, evaluateItem_eq loaded found read']
  cases own : Submission.parse item with
  | error fault => rfl
  | ok x =>
    rw [ok_bind, ok_bind]
    cases known : pointOf product x.item with
    | error fault => rfl
    | ok point =>
      have known := pointOf_eq_ok.1 known
      have shares := shares x own
      have name := (Product.point?_eq_some known).2
      rw [← name] at known shares
      exact previewOf_congr sound known distinct distinct' shares

end Session

namespace Plate

open Session

/-- A check needs its copy, and the thickness that this one is taken from, of a request that has
both; what else the request has, and its order, make no difference. -/
lemma shares_check : product.Shares "check" [submission "copy" [], submission "thickness" [2.0]]
    [submission "scratch" [], submission "thickness" [2.0], submission "check" [],
      submission "copy" []] where
  left := by
    intro x mem _
    simp only [List.mem_cons, List.not_mem_nil, or_false] at mem ⊢
    rcases mem with rfl | rfl
    · exact .inr (.inr (.inr rfl))
    · exact .inr (.inl rfl)
  right := by
    intro x mem needs
    have read : x.item ∈ product.reads "check" ∨ x.item ∈ product.reads "copy" ∨
        x.item ∈ product.reads "thickness" := by
      generalize x.item = n at needs
      induction needs with
      | direct read _ _ => exact .inl read
      | through needs read _ _ ih =>
        rcases ih with ih | ih | ih
        · rw [List.mem_singleton.1 (show _ ∈ ["copy"] from ih)] at read
          exact .inr (.inl read)
        · rw [List.mem_singleton.1 (show _ ∈ ["thickness"] from ih)] at read
          exact .inr (.inr read)
        · cases show _ ∈ [] from ih
    simp only [List.mem_cons, List.not_mem_nil, or_false] at mem ⊢
    rcases mem with rfl | rfl | rfl | rfl
    · rcases read with read | read | read <;> exact absurd read (by decide)
    · exact .inr rfl
    · rcases read with read | read | read <;> exact absurd read (by decide)
    · exact .inl rfl

/-- The preview of a check comes to the same though its request is handed in the other way round,
with the check itself and an item in it that no plate has. -/
theorem evaluateItem_relevant_check :
    product.check = .ok product ∧ saved.Reachable product ∧
      (session saved).evaluateItem saved.id (document "check" [])
          [document "copy" [], document "thickness" [2.0]] =
        (session saved).evaluateItem saved.id (document "check" [])
          [document "scratch" [], document "thickness" [2.0], document "check" [],
            document "copy" []] := by
  have own : Submission.parse (document "check" []) = .ok (submission "check" []) := by rfl
  have read : Submission.parseAll [document "copy" [], document "thickness" [2.0]] =
      .ok [submission "copy" [], submission "thickness" [2.0]] := by rfl
  have read' : Submission.parseAll [document "scratch" [], document "thickness" [2.0],
      document "check" [], document "copy" []] =
      .ok [submission "scratch" [], submission "thickness" [2.0], submission "check" [],
        submission "copy" []] := by rfl
  refine ⟨accepted, reachable_saved,
    evaluateItem_relevant accepted (batch_session saved) (product_session saved) read read' ?_⟩
  intro x parsed
  obtain rfl : submission "check" [] = x := Except.ok.inj (own.symm.trans parsed)
  exact shares_check

end Plate

end Inspection
