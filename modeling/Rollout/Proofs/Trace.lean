import Rollout.Trace
namespace Rollout.Traced

variable {ε ε' α β : Type} {x : Traced ε α} {f : α → Traced ε β} {P : Event → Prop}

@[simp]
theorem result_pure (a : α) : (pure a : Traced ε α).result = .ok a :=
  rfl

@[simp]
theorem events_pure (a : α) : (pure a : Traced ε α).events = [] :=
  rfl

@[simp]
theorem result_fail (e : ε) : (fail e : Traced ε α).result = .error e :=
  rfl

@[simp]
theorem events_fail (e : ε) : (fail e : Traced ε α).events = [] :=
  rfl

@[simp]
theorem result_of (r : Except ε α) : (of r).result = r :=
  rfl

@[simp]
theorem events_of (r : Except ε α) : (of r).events = [] :=
  rfl

theorem of_ok_bind (a : α) : (of (.ok a) : Traced ε α) >>= f = f a :=
  rfl

@[simp]
theorem result_asked (ev : Event) (r : Except ε α) : (asked ev r).result = r :=
  rfl

@[simp]
theorem events_asked (ev : Event) (r : Except ε α) : (asked ev r).events = [ev] :=
  rfl

@[simp]
theorem result_mapError (g : ε → ε') : (x.mapError g).result = x.result.mapError g :=
  rfl

@[simp]
theorem events_mapError (g : ε → ε') : (x.mapError g).events = x.events :=
  rfl

theorem result_bind_of_ok (h : x.result = .ok a) : (x >>= f).result = (f a).result := by
  rw [bind_eq, bind_of_ok f h]

theorem events_bind_of_ok (h : x.result = .ok a) : (x >>= f).events = x.events ++ (f a).events := by
  rw [bind_eq, bind_of_ok f h]

theorem result_bind_of_error (h : x.result = .error e) : (x >>= f).result = .error e := by
  rw [bind_eq, bind_of_error f h]

theorem events_bind_of_error (h : x.result = .error e) : (x >>= f).events = x.events := by
  rw [bind_eq, bind_of_error f h]

theorem result_bind_eq_ok_iff :
    (x >>= f).result = .ok b ↔ ∃ a, x.result = .ok a ∧ (f a).result = .ok b := by
  cases h : x.result
  case error e => simp [result_bind_of_error h]
  case ok a    => simp [result_bind_of_ok h]

theorem result_bind_eq_error_iff :
    (x >>= f).result = .error e ↔
      x.result = .error e ∨ ∃ a, x.result = .ok a ∧ (f a).result = .error e := by
  cases h : x.result
  case error e => simp [result_bind_of_error h]
  case ok a    => simp [result_bind_of_ok h]

theorem mapError_eq_ok_iff {g : ε → ε'} {r : Except ε α} : r.mapError g = .ok a ↔ r = .ok a := by
  cases r
  case error => constructor <;> nofun
  case ok    => constructor <;> (rintro ⟨⟩; rfl)

theorem mapError_eq_error_iff {g : ε → ε'} {r : Except ε α} : 
    r.mapError g = .error e' ↔ ∃ e, r = .error e ∧ g e = e' := by
  cases r
  case error e => 
    constructor
    case mp  => rintro ⟨⟩; exact ⟨e, rfl, rfl⟩
    case mpr => rintro ⟨_, ⟨⟩, rfl⟩; rfl
  case ok => constructor <;> nofun

theorem result_mapError_eq_ok_iff {g : ε → ε'} : 
    (x.mapError g).result = .ok a ↔ x.result = .ok a := by
  rw [result_mapError, mapError_eq_ok_iff]

theorem result_mapError_eq_error_iff {g : ε → ε'} :
    (x.mapError g).result = .error e' ↔ ∃ e, x.result = .error e ∧ g e = e' := by
  rw [result_mapError, mapError_eq_error_iff]

theorem mapError_bind_of_ok {g : ε → ε'} {k : α → Traced ε' β} (h : x.result = .ok a) : 
    x.mapError g >>= k = ⟨x.events ++ (k a).events, (k a).result⟩ := by
  rw [bind_eq, bind_of_ok _ (result_mapError_eq_ok_iff.mpr h), events_mapError]

theorem mapError_bind_of_error {g : ε → ε'} {k : α → Traced ε' β} (h : x.result = .error e) : 
    x.mapError g >>= k = ⟨x.events, .error (g e)⟩ := by
  rw [bind_eq, bind_of_error _ (result_mapError_eq_error_iff.mpr ⟨e, h, rfl⟩), events_mapError]

theorem mapError_bind (g : ε → ε') : 
    (x >>= f).mapError g = x.mapError g >>= fun a => (f a).mapError g := by
  cases h : x.result
  case error e => rw [mapError_bind_of_error h, bind_eq, bind_of_error f h]; rfl
  case ok a    => rw [mapError_bind_of_ok h, bind_eq, bind_of_ok f h]; rfl

theorem mapError_map (g : ε → ε') (k : α → β) : (k <$> x).mapError g = k <$> x.mapError g := by
  rw [map_eq_pure_bind, map_eq_pure_bind, mapError_bind]
  rfl

theorem exists_of_mapError {g : ε → ε'} (h : (x.mapError g).result = .error e') : ∃ e, e' = g e := by
  have ⟨e, _, he⟩ := result_mapError_eq_error_iff.mp h
  exact ⟨e, he.symm⟩

theorem mem_events_bind {ev : Event} (h : ev ∈ x.events) : ev ∈ (x >>= f).events := by
  cases hx : x.result
  case error e => rwa [events_bind_of_error hx]
  case ok a    => exact events_bind_of_ok hx ▸ List.mem_append_left _ h

theorem forall_events_bind (hx : ∀ ev ∈ x.events, P ev) 
    (hf : ∀ a, x.result = .ok a → ∀ ev ∈ (f a).events, P ev) : ∀ ev ∈ (x >>= f).events, P ev := by
  cases h : x.result
  case error e => rwa [events_bind_of_error h]
  case ok a    =>
    rw [events_bind_of_ok h]
    intro ev hm
    cases List.mem_append.mp hm
    case inl hm => exact hx ev hm
    case inr hm => exact hf a h ev hm

theorem forall_error_bind {Q : ε → Prop} (hx : ∀ e, x.result = .error e → Q e) 
    (hf : ∀ a, x.result = .ok a → ∀ e, (f a).result = .error e → Q e) : 
    ∀ e, (x >>= f).result = .error e → Q e := by
  intro e h
  cases result_bind_eq_error_iff.mp h
  case inl h => exact hx e h
  case inr h =>
    have ⟨a, ha, h⟩ := h
    exact hf a ha e h

-- What follows a computation only matters for the values that it can have.
theorem bind_congr_of_ok {g : α → Traced ε β} (h : ∀ a, x.result = .ok a → f a = g a) : 
    x >>= f = x >>= g := by
  cases hx : x.result
  case error e => simp [bind_eq, bind_of_error _ hx]
  case ok a    => simp [bind_eq, bind_of_ok _ hx, h a hx]

theorem result_bind_congr {g : α → Traced ε β} 
    (h : ∀ a, x.result = .ok a → (f a).result = (g a).result) : 
    (x >>= f).result = (x >>= g).result := by
  cases hx : x.result
  case error e => rw [result_bind_of_error hx, result_bind_of_error hx]
  case ok a    => rw [result_bind_of_ok hx, result_bind_of_ok hx, h a hx]

-- A computation whose value does not matter.
def forget (x : Traced ε α) : Traced ε Unit :=
  x >>= fun _ => pure ()

@[simp]
theorem result_forget (x : Traced ε α) : x.forget.result = x.result.map fun _ => () := by
  cases h : x.result
  case error e => rw [forget, result_bind_of_error h]; rfl
  case ok a    => rw [forget, result_bind_of_ok h]; rfl

@[simp]
theorem events_forget (x : Traced ε α) : x.forget.events = x.events := by
  cases h : x.result
  case error e => rw [forget, events_bind_of_error h]
  case ok a    => rw [forget, events_bind_of_ok h, events_pure, List.append_nil]

theorem result_forget_eq_error_iff : x.forget.result = .error e ↔ x.result = .error e := by
  rw [result_forget]
  cases h : x.result <;> simp [Except.map]

theorem result_forget_eq_ok_iff : x.forget.result = .ok () ↔ ∃ a, x.result = .ok a := by
  rw [result_forget]
  cases h : x.result <;> simp [Except.map]

theorem forget_bind : (x >>= f).forget = x >>= fun a => (f a).forget := by
  simp [forget]

theorem bind_forget {g : Unit → Traced ε β} : x.forget >>= g = x >>= fun _ => g () := by
  simp [forget]

@[simp]
theorem forget_pure (a : α) : (pure a : Traced ε α).forget = pure () :=
  rfl

-- Computations that run one after the other, up to the first that fails.
section

variable {step : α → Traced ε Unit} {l before after : List α}

theorem forM_of_ok (h : ∀ a ∈ l, (step a).result = .ok ()) : 
    l.forM step = ⟨l.flatMap fun a => (step a).events, .ok ()⟩ := by
  induction l
  case nil          => rfl
  case cons a l hi => 
    have ha := h a List.mem_cons_self
    have hl := hi fun b hb => h b (List.mem_cons_of_mem _ hb)
    change step a >>= (fun _ => l.forM step) = _
    simp [bind_eq, bind_of_ok _ ha, hl]

theorem forM_of_error (hb : ∀ b ∈ before, (step b).result = .ok ()) (ha : (step a).result = .error e) : 
    (before ++ a :: after).forM step = 
      ⟨before.flatMap (fun b => (step b).events) ++ (step a).events, .error e⟩ := by
  induction before
  case nil =>
    change step a >>= (fun _ => after.forM step) = _
    simp [bind_eq, bind_of_error _ ha]
  case cons b before hi => 
    have hb' := hb b List.mem_cons_self
    have hl := hi fun c hc => hb c (List.mem_cons_of_mem _ hc)
    change step b >>= (fun _ => (before ++ a :: after).forM step) = _
    simp [bind_eq, bind_of_ok _ hb', hl]

-- Either all computations succeed, or there is a first one that does not.
theorem forall_ok_or_exists_error (step : α → Traced ε Unit) (l : List α) : 
    (∀ a ∈ l, (step a).result = .ok ()) ∨ 
      ∃ before a after e, l = before ++ a :: after ∧ (∀ b ∈ before, (step b).result = .ok ()) ∧ 
        (step a).result = .error e := by
  induction l
  case nil => simp
  case cons b l hi =>
    cases hb : (step b).result
    case error e => exact .inr ⟨[], b, l, e, rfl, by simp, hb⟩
    case ok      =>
      cases hi
      case inl hl => exact .inl (by simpa [hb] using hl)
      case inr hl =>
        have ⟨before, a, after, e, hl, hok, ha⟩ := hl
        exact .inr ⟨b :: before, a, after, e, by simp [hl], by simpa [hb] using hok, ha⟩

end
end Rollout.Traced
