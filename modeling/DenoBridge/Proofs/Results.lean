/-! # Results and their failures

    What is known of a result that is put together from other results.  Where
    it succeeds its parts have succeeded (`exists_of_bind_ok`), and where it
    fails it fails as its first failing part does (`failure?_bind`,
    `failure?_mapM`, `foldlM_error_iff`).
-/

namespace DenoBridge

variable {ε α β σ : Type}

/-! ## Section 1: Success -/

theorem exists_of_map_ok {f : α → β} {result : Except ε α} {b : β} (h : result.map f = .ok b) :
    ∃ a, result = .ok a ∧ f a = b := by
  cases result with
  | error e => cases h
  | ok a => exact ⟨a, rfl, Except.ok.inj h⟩

theorem exists_of_bind_ok {first : Except ε α} {next : α → Except ε β} {b : β}
    (h : first >>= next = .ok b) : ∃ a, first = .ok a ∧ next a = .ok b := by
  cases first with
  | error e => cases h
  | ok a => exact ⟨a, rfl, h⟩

/-- Where something was traversed, something is found. -/
theorem ne_nil_of_mapM {f : α → Except ε β} {first : α} {rest : List α} {found : List β}
    (h : (first :: rest).mapM f = .ok found) : found ≠ [] := by
  rw [List.mapM_cons] at h
  obtain ⟨b, -, h⟩ := exists_of_bind_ok h
  obtain ⟨more, -, h⟩ := exists_of_bind_ok h
  obtain rfl := Except.ok.inj h
  exact List.cons_ne_nil b more

/-- In a traversal that comes to its end, each item has its result among what
    is found, and all that is found is a result of an item. -/
theorem mem_of_mapM {f : α → Option β} {items : List α} {found : List β}
    (h : items.mapM f = some found) : (∀ item ∈ items, ∃ b ∈ found, f item = some b) ∧
      ∀ b ∈ found, ∃ item ∈ items, f item = some b := by
  induction items generalizing found with
  | nil =>
    obtain rfl : found = [] := by simpa using h.symm
    simp
  | cons item rest ih =>
    rw [List.mapM_cons] at h
    obtain ⟨b, hb, h⟩ := Option.bind_eq_some_iff.1 h
    obtain ⟨more, hmore, h⟩ := Option.bind_eq_some_iff.1 h
    obtain rfl := Option.some.inj h
    obtain ⟨hitems, hfound⟩ := ih hmore
    constructor
    · rw [List.forall_mem_cons]
      refine ⟨⟨b, List.mem_cons_self, hb⟩, fun other hother => ?_⟩
      obtain ⟨c, hc, heq⟩ := hitems other hother
      exact ⟨c, List.mem_cons_of_mem _ hc, heq⟩
    · rw [List.forall_mem_cons]
      refine ⟨⟨item, List.mem_cons_self, hb⟩, fun c hc => ?_⟩
      obtain ⟨other, hother, heq⟩ := hfound c hc
      exact ⟨other, List.mem_cons_of_mem _ hother, heq⟩

/-- What a traversal finds is what some item has given. -/
theorem of_mem_mapM {f : α → Except ε β} {items : List α} {found : List β}
    (h : items.mapM f = .ok found) : ∀ b ∈ found, ∃ item ∈ items, f item = .ok b := by
  induction items generalizing found with
  | nil =>
    obtain rfl : [] = found := Except.ok.inj h
    simp
  | cons first rest ih =>
    rw [List.mapM_cons] at h
    obtain ⟨b, hb, h⟩ := exists_of_bind_ok h
    obtain ⟨more, hmore, h⟩ := exists_of_bind_ok h
    obtain rfl := Except.ok.inj h
    rw [List.forall_mem_cons]
    refine ⟨⟨first, List.mem_cons_self, hb⟩, fun c hc => ?_⟩
    obtain ⟨item, hitem, heq⟩ := ih hmore c hc
    exact ⟨item, List.mem_cons_of_mem _ hitem, heq⟩

/-! ## Section 2: Failure -/

/-- The failure that a result is. -/
def failure? : Except ε α → Option ε
  | .ok _ => none
  | .error e => some e

theorem failure?_eq_some_iff {result : Except ε α} {e : ε} :
    failure? result = some e ↔ result = .error e := by
  cases result with
  | ok a => exact ⟨fun habsurd => (nomatch habsurd), fun habsurd => (nomatch habsurd)⟩
  | error e' =>
    show some e' = some e ↔ _
    rw [Option.some.injEq, Except.error.injEq]

@[simp] theorem failure?_map (f : α → β) (result : Except ε α) :
    failure? (result.map f) = failure? result := by
  cases result <;> rfl

@[simp] theorem failure?_pure (a : α) : failure? (pure a : Except ε α) = none := rfl

/-- Where the second failure does not depend on the first result, it comes
    when there is no first failure. -/
theorem failure?_bind {first : Except ε α} {next : α → Except ε β} {e : Option ε}
    (h : ∀ a, failure? (next a) = e) : failure? (first >>= next) = (failure? first).or e := by
  cases first with
  | ok a => exact h a
  | error _ => rfl

/-- Of several failures in a row, it is the first one. -/
theorem failure?_mapM (f : α → Except ε β) (items : List α) :
    failure? (items.mapM f) = items.findSome? fun item => failure? (f item) := by
  induction items with
  | nil => rfl
  | cons first rest ih =>
    rw [List.mapM_cons, List.findSome?_cons, failure?_bind (e := failure? (rest.mapM f)), ih]
    · cases failure? (f first) <;> rfl
    · intro b
      rw [failure?_bind (e := none) (fun _ => rfl), Option.or_none]

theorem exists_ok_iff {result : Except ε α} : (∃ a, result = .ok a) ↔ failure? result = none := by
  cases result with
  | ok a => simp [failure?]
  | error e => simp [failure?]

/-- What is only rewrapped is there when it was there. -/
theorem exists_bind_pure_iff {f : α → β} {result : Except ε α} :
    (∃ b, (result >>= fun a => pure (f a)) = .ok b) ↔ ∃ a, result = .ok a := by
  have hfailure : failure? (result >>= fun a => pure (f a)) = failure? result := by
    rw [failure?_bind fun a => failure?_pure (f a), Option.or_none]
  rw [exists_ok_iff, exists_ok_iff, hfailure]

/-- A traversal comes to its end when every item has a result. -/
theorem exists_mapM_iff {f : α → Except ε β} {items : List α} :
    (∃ found, items.mapM f = .ok found) ↔ ∀ item ∈ items, ∃ b, f item = .ok b := by
  simp only [exists_ok_iff, failure?_mapM, List.findSome?_eq_none_iff]

theorem failure?_mapM_option (f : α → Except ε β) (item : Option α) :
    failure? (item.mapM f) = item.toList.findSome? fun item => failure? (f item) := by
  cases item with
  | none => rfl
  | some a =>
    rw [Option.toList_some, List.findSome?_singleton]
    show failure? (some <$> f a) = failure? (f a)
    exact failure?_map some (f a)

/-- A fold that fails has taken what stands before some element, and fails at
    that element. -/
theorem foldlM_error_iff {f : σ → α → Except ε σ} {s : σ} {xs : List α} {e : ε} :
    xs.foldlM f s = .error e ↔
      ∃ before x after reached, xs = before ++ x :: after ∧
        before.foldlM f s = .ok reached ∧ f reached x = .error e := by
  constructor
  · intro h
    induction xs generalizing s with
    | nil => cases h
    | cons first rest ih =>
      rw [List.foldlM_cons] at h
      cases hfirst : f s first with
      | error e' =>
        rw [hfirst] at h
        obtain rfl := Except.error.inj h
        exact ⟨[], first, rest, s, rfl, rfl, hfirst⟩
      | ok next =>
        rw [hfirst] at h
        obtain ⟨before, x, after, reached, rfl, hbefore, hfails⟩ := ih h
        refine ⟨first :: before, x, after, reached, rfl, ?_, hfails⟩
        rw [List.foldlM_cons, hfirst]
        exact hbefore
  · rintro ⟨before, x, after, reached, rfl, hbefore, hfails⟩
    rw [List.foldlM_append, hbefore]
    show (x :: after).foldlM f reached = .error e
    rw [List.foldlM_cons, hfails]
    rfl

/-! ## Section 3: Work on a state -/

theorem run_bind (work : ExceptT ε (StateM σ) α) (next : α → ExceptT ε (StateM σ) β) (state : σ) :
    (work >>= next).run state = match work.run state with
      | (.ok a, state) => (next a).run state
      | (.error e, state) => (.error e, state) := by
  show (match ExceptT.run work state with
    | (r, state) => (ExceptT.bindCont next r : StateM σ _) state) = _
  obtain ⟨r, state'⟩ := ExceptT.run work state
  cases r <;> rfl

/-- Work that goes well goes well in its first part. -/
theorem exists_of_run_bind {work : ExceptT ε (StateM σ) α} {next : α → ExceptT ε (StateM σ) β}
    {state state' : σ} {b : β} (h : (work >>= next).run state = (.ok b, state')) :
    ∃ a between, work.run state = (.ok a, between) ∧ (next a).run between = (.ok b, state') := by
  rw [run_bind] at h
  rcases hwork : work.run state with ⟨e | a, between⟩
  · rw [hwork] at h
    cases h
  · rw [hwork] at h
    exact ⟨a, between, rfl, h⟩

end DenoBridge
