import Rollout.Proofs.CommandContext.Stage
import Rollout.Proofs.Routing
namespace Rollout.CommandContext

variable {inv inv' : Invocation} {demands demands' : Demands} {env env' : Collaborators}
variable {s t : Stage} {e : InitError}

-- The stage that consults something. Nothing is shown to the user by any of them.
def Stage.ofEvent? : Event → Option Stage
  | .askedDefault   => some workspace
  | .askedContext _ => some workspace
  | .askedConfig    => some target
  | .listedFiles _  => some values
  | .readFile _     => some values
  | .askedProject _ => some runner
  | .askedProfiles  => some runner
  | .output _       => none
  | .error _        => none
  | .printed _      => none

theorem events_current (c : ContextStore) : 
    ∀ ev ∈ c.current.events, Stage.ofEvent? ev = some .workspace := by
  refine Traced.forall_events_bind (by simp [Stage.ofEvent?]) fun name? _ => ?_
  cases name?
  case none      => simp
  case some name => exact Traced.forall_events_bind (by simp [Stage.ofEvent?]) fun _ _ => by simp

theorem events_resolve_workspace (flag environment : Option String) (c : ContextStore) : 
    ∀ ev ∈ (WorkspaceRef.resolve flag environment c).events, 
      Stage.ofEvent? ev = some .workspace := by
  unfold WorkspaceRef.resolve
  split
  case h_1 => simp
  case h_2 => exact Traced.forall_events_bind (events_current c) fun _ _ => by simp

theorem events_resolve_connection (flag : Option Connection) (c : ContextStore) : 
    ∀ ev ∈ (Connection.resolve flag c).events, Stage.ofEvent? ev = some .workspace := by
  unfold Connection.resolve
  split
  case h_1 => simp
  case h_2 => exact Traced.forall_events_bind (events_current c) fun _ _ => by simp

theorem events_resolution : 
    ∀ ev ∈ (resolution inv demands env).events, Stage.ofEvent? ev = some .target := by
  refine Traced.forall_events_bind (by simp) fun positional _ => ?_
  unfold Target.resolveFrom
  split
  case isTrue  => simp
  case isFalse =>
    refine Traced.forall_events_bind (by simp [Stage.ofEvent?]) fun config _ => ?_
    split
    case h_1 =>
      refine Traced.forall_events_bind (by simp) fun _ _ => ?_
      split
      · simp
      · exact Traced.forall_events_bind (by simp) fun _ _ => by simp
    case h_2 => split <;> simp

theorem events_readFiles (files : FileTree) (ps : List Path) : 
    ∀ ev ∈ (readFiles files ps).events, Stage.ofEvent? ev = some .values := by
  induction ps
  case nil          => simp [readFiles]
  case cons p ps hi =>
    refine Traced.forall_events_bind (by simp [Stage.ofEvent?]) fun _ _ => ?_
    exact Traced.forall_events_bind hi fun _ _ => by simp

theorem events_automaticFiles (files : FileTree) (config : Option LoadedConfig) : 
    ∀ ev ∈ (automaticFiles files config).events, Stage.ofEvent? ev = some .values := by
  cases config <;> simp [automaticFiles, Stage.ofEvent?]

theorem events_loadVariables (files : FileTree) (config : Option LoadedConfig) (inv : Invocation) : 
    ∀ ev ∈ (loadVariables files config inv).events, Stage.ofEvent? ev = some .values := by
  refine Traced.forall_events_bind (events_automaticFiles files config) fun _ _ => ?_
  exact Traced.forall_events_bind (events_readFiles _ _) fun _ _ => by simp

theorem events_decide (server : Server) (p : Project) : 
    ∀ ev ∈ (Routing.decide server p).events, Stage.ofEvent? ev = some .runner := by
  intro ev h
  rw [Routing.eq_askedProfiles _ _ _ h, Stage.ofEvent?]

theorem events_checkExplicit (demands : Demands) (server : Option Server) (r : Resolution) : 
    ∀ ev ∈ (checkExplicit demands server r).events, Stage.ofEvent? ev = some .runner := by
  unfold checkExplicit
  split
  case h_2 => simp
  case h_1 p _ =>
    split
    case isFalse => simp
    case isTrue  =>
      cases server
      case none        => simp [checkRunner]
      case some server =>
        refine Traced.forall_events_bind (by simp [Stage.ofEvent?]) fun project _ => ?_
        refine Traced.forall_events_bind (events_decide server project) fun routing _ => ?_
        split <;> simp

theorem events_work (s : Stage) : 
    ∀ ev ∈ (work inv demands env s).events, Stage.ofEvent? ev = some s := by
  cases s <;> simp only [work, onceResolved]
  case placement => simp
  case workspace => simpa using events_resolve_workspace _ _ _
  case target    => simpa using events_resolution
  case values    => 
    split
    · simpa using events_loadVariables _ _ _
    · simp
  case remote    => split <;> simp
  case runner    => 
    split
    · exact events_checkExplicit _ _ _
    · simp

-- Two events in the order of the stages that cause them.
def Stage.Follows (earlier later : Event) : Prop :=
  ∃ s t, ofEvent? earlier = some s ∧ ofEvent? later = some t ∧ s ≤ t

theorem follows_of_events_work {ev ev' : Event} (h : ev ∈ (work inv demands env s).events) 
    (h' : ev' ∈ (work inv demands env t).events) (hl : s ≤ t) : Stage.Follows ev ev' :=
  ⟨s, t, events_work s ev h, events_work t ev' h', hl⟩

-- The events of a preparation are those of its first stages.
theorem exists_events_init (inv : Invocation) (demands : Demands) (env : Collaborators) : 
    ∃ l, l <+: Stage.all ∧ 
      (init inv demands env).events = l.flatMap fun s => (work inv demands env s).events := by
  have hi := congrArg Traced.events (forget_init inv demands env)
  rw [Traced.events_forget] at hi
  cases Traced.forall_ok_or_exists_error (work inv demands env) Stage.all
  case inl hok => exact ⟨Stage.all, List.prefix_rfl, by rw [hi, Traced.forM_of_ok hok]⟩
  case inr hex =>
    have ⟨before, s, after, e, hall, hok, he⟩ := hex
    refine ⟨before ++ [s], ⟨after, by simp [hall]⟩, ?_⟩
    rw [hi, hall, Traced.forM_of_error hok he]
    simp

-- A preparation that succeeds has been through all of its stages.
theorem events_init_of_ok {c : CommandContext} (h : (init inv demands env).result = .ok c) : 
    (init inv demands env).events = Stage.all.flatMap fun s => (work inv demands env s).events := by
  have hi := forget_init inv demands env
  rw [← Traced.events_forget, hi]
  cases Traced.forall_ok_or_exists_error (work inv demands env) Stage.all
  case inl hok => rw [Traced.forM_of_ok hok]
  case inr hex =>
    have ⟨before, s, after, e, hall, hok, he⟩ := hex
    have f : FailsAt inv demands env s e := ⟨he, fun t ht => hok t <| Stage.mem_of_lt hall ht⟩
    cases f.result_init.symm.trans h

theorem events_init (inv : Invocation) (demands : Demands) (env : Collaborators) : 
    ∀ ev ∈ (init inv demands env).events, ∃ s, Stage.ofEvent? ev = some s := by
  intro ev hm
  have ⟨l, _, he⟩ := exists_events_init inv demands env
  have ⟨s, _, hm⟩ := List.mem_flatMap.mp (he ▸ hm)
  exact ⟨s, events_work s ev hm⟩

theorem events_init_pairwise : (init inv demands env).events.Pairwise Stage.Follows := by
  have ⟨l, hl, he⟩ := exists_events_init inv demands env
  rw [he, List.pairwise_flatMap]
  refine ⟨fun s _ => ?_, (Stage.all_pairwise.sublist hl.sublist).imp fun hlt _ h _ h' => ?_⟩
  · exact List.pairwise_of_forall_mem_list fun _ h _ h' => 
      follows_of_events_work h h' (Nat.le_refl _)
  · exact follows_of_events_work h h' (Nat.le_of_lt hlt)

theorem FailsAt.ofEvent?_le (f : FailsAt inv demands env s e) : 
    ∀ ev ∈ (init inv demands env).events, ∃ t, t ≤ s ∧ Stage.ofEvent? ev = some t := by
  intro ev hm
  have h := congrArg Traced.events f.forget_init
  rw [Traced.events_forget] at h
  cases List.mem_append.mp (h ▸ hm)
  case inl hm => 
    have ⟨t, ht, hm⟩ := List.mem_flatMap.mp hm
    exact ⟨t, Nat.le_of_lt (Stage.lt_of_mem_before ht), events_work t ev hm⟩
  case inr hm => exact ⟨s, Nat.le_refl _, events_work s ev hm⟩

end Rollout.CommandContext
