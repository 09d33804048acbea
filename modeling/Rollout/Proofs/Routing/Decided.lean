import Rollout.Proofs.Routing
namespace Rollout

-- The data of a project can be fetched from a repository.
def Project.HasRepository (p : Project) : Prop :=
  ∃ url path ref, p.dataSource = some (.git url path ref)

namespace Routing

-- The conditions that can decide, in the order in which they are looked at.
def order : List Routing :=
  [disabled, noData, localData, assignedProfile, defaultProfile, noProfile]

-- What each condition says on its own, whatever the others say. Nothing but an answer of the server is
-- left to ask of the last one.
inductive Holds (p : Project) (profiles : Except Failure (List Profile)) : Routing → Prop
  | disabled (off : p.remoteEnabled = false) : Holds p profiles .disabled
  | noData (missing : p.dataSource = none) : Holds p profiles .noData
  | localData (isHere : p.dataSource = some .here) : Holds p profiles .localData
  | assignedProfile {name} (assigned : p.runner = some name) : Holds p profiles .assignedProfile
  | defaultProfile {offered profile} (listed : profiles = .ok offered) (mem : profile ∈ offered)
    (marked : profile.isDefault) : Holds p profiles .defaultProfile
  | noProfile {offered} (listed : profiles = .ok offered) : Holds p profiles .noProfile

-- The first condition that holds.
structure Decides (p : Project) (profiles : Except Failure (List Profile)) (r : Routing) : Prop where
  holds : Holds p profiles r
  first : ∀ earlier ∈ order.takeWhile (· ≠ r), ¬Holds p profiles earlier

variable {s s' : Server} {p : Project} {f : Failure} {r r' : Routing} 
variable {profiles : Except Failure (List Profile)} {offered offered' : List Profile}

theorem earlier_total (r r' : Routing) : 
    r = r' ∨ r ∈ order.takeWhile (· ≠ r') ∨ r' ∈ order.takeWhile (· ≠ r) := by
  cases r <;> cases r' <;> decide

theorem Decides.unique (h : Decides p profiles r) (h' : Decides p profiles r') : r = r' := by
  obtain he | he | he := earlier_total r r'
  · exact he
  · exact absurd h.holds (h'.first r he)
  · exact absurd h'.holds (h.first r' he)

theorem undecided_iff : p.Undecided ↔ p.remoteEnabled ∧ p.HasRepository ∧ p.runner = none := by
  constructor
  case mp  =>
    intro ⟨he, ⟨data, hd, hr⟩, hn⟩
    cases data
    case here => contradiction
    case git  => exact ⟨he, ⟨_, _, _, hd⟩, hn⟩
  case mpr =>
    intro ⟨he, ⟨_, _, _, hd⟩, hn⟩
    exact ⟨he, ⟨_, hd, rfl⟩, hn⟩

theorem decide_of_listed (h : p.Undecided) (hs : s.profiles = .ok offered) : 
    decide s p = ⟨[.askedProfiles], 
      .ok (if offered.any (·.isDefault) then .defaultProfile else .noProfile)⟩ := by
  rw [decide_of_undecided h, hs]
  rfl

theorem decides_of_undecided (h : p.Undecided) (hs : profiles = .ok offered) : 
    Decides p profiles (if offered.any (·.isDefault) then .defaultProfile else .noProfile) := by
  have ⟨he, ⟨_, _, _, hd⟩, hn⟩ := undecided_iff.mp h
  split
  case isTrue ha  =>
    have ⟨_, hm, hp⟩ := List.any_eq_true.mp ha
    exact ⟨.defaultProfile hs hm hp, by rintro _ hm ⟨⟩ <;> simp_all [order]⟩
  case isFalse ha => exact ⟨.noProfile hs, by rintro _ hm ⟨⟩ <;> simp_all [order]⟩

-- What a project says about itself decides without the profiles.
theorem exists_decides_of_decided (h : ¬p.Undecided) : 
    ∃ r, ∀ s, decide s p = pure r ∧ Decides p s.profiles r := by
  rw [undecided_iff] at h
  cases he : p.remoteEnabled
  case false => exact ⟨.disabled, fun s => ⟨by simp [decide, he], .disabled he, nofun⟩⟩
  case true  =>
    rcases hd : p.dataSource with _ | _ | ⟨url, path, ref⟩
    case none      => 
      refine ⟨.noData, fun s => ⟨by simp [decide, he, hd], .noData hd, ?_⟩⟩
      rintro _ hm ⟨⟩ <;> simp_all [order]
    case some.here => 
      refine ⟨.localData, fun s => ⟨by simp [decide, he, hd, DataSource.isRemote], .localData hd, ?_⟩⟩
      rintro _ hm ⟨⟩ <;> simp_all [order]
    case some.git  =>
      cases hr : p.runner
      case none   => exact absurd ⟨he, ⟨url, path, ref, hd⟩, hr⟩ h
      case some _ => 
        refine ⟨.assignedProfile, fun s => ⟨?_, .assignedProfile hr, ?_⟩⟩
        case refine_1 => simp [decide, he, hd, DataSource.isRemote, hr]
        case refine_2 => rintro _ hm ⟨⟩ <;> simp_all [order]

theorem decide_eq_ok_iff : (decide s p).result = .ok r ↔ Decides p s.profiles r := by
  by_cases h : p.Undecided
  case neg =>
    have ⟨r', hr⟩ := exists_decides_of_decided h
    rw [(hr s).left, Traced.result_pure, Except.ok.injEq]
    constructor
    case mp  => exact fun he => he ▸ (hr s).right
    case mpr => exact (hr s).right.unique
  case pos =>
    cases hs : s.profiles
    case ok offered =>
      have hd : Decides p (.ok offered) _ := decides_of_undecided h rfl
      rw [decide_of_listed h hs, Except.ok.injEq]
      constructor
      case mp  => exact fun he => he ▸ hd
      case mpr => exact hd.unique
    case error f    =>
      rw [decide_eq_error_iff.mpr ⟨h, hs⟩]
      refine iff_of_false nofun fun hd => ?_
      have ⟨he, ⟨_, _, _, hd'⟩, hn⟩ := undecided_iff.mp h
      cases hd.holds <;> simp_all

-- What it takes to run remotely.
structure Remotely (p : Project) (profiles : Except Failure (List Profile)) : Prop where
  enabled    : p.remoteEnabled
  repository : p.HasRepository
  profile    : (∃ name, p.runner = some name) ∨ 
    ∃ offered, profiles = .ok offered ∧ ∃ profile ∈ offered, profile.isDefault

-- Where the first three conditions leave the question open, there is a repository to work with.
theorem Decides.hasRepository (h : Decides p profiles r) 
    (hr : [disabled, noData, localData] ⊆ order.takeWhile (· ≠ r)) : 
    p.remoteEnabled ∧ p.HasRepository := by
  have hn (earlier) (hm : earlier ∈ [disabled, noData, localData]) : ¬Holds p profiles earlier := 
    h.first earlier (hr hm)
  constructor
  case left  =>
    rw [← Bool.not_eq_false]
    exact fun he => hn .disabled (by decide) (.disabled he)
  case right =>
    match hd : p.dataSource with
    | none                     => exact absurd (.noData hd) (hn .noData (by decide))
    | some .here               => exact absurd (.localData hd) (hn .localData (by decide))
    | some (.git url path ref) => exact ⟨url, path, ref, hd⟩

theorem Decides.remote_iff (h : Decides p profiles r) : r.mode = .remote ↔ Remotely p profiles := by
  have hf := h.first
  cases h.holds
  case disabled off            => exact iff_of_false nofun fun hr => by simpa [off] using hr.enabled
  case noData missing          => 
    refine iff_of_false nofun fun hr => ?_
    have ⟨_, _, _, hd⟩ := hr.repository
    cases missing.symm.trans hd
  case localData isHere        => 
    refine iff_of_false nofun fun hr => ?_
    have ⟨_, _, _, hd⟩ := hr.repository
    cases isHere.symm.trans hd
  case assignedProfile hn      => 
    have ⟨he, hg⟩ := h.hasRepository (by decide)
    exact iff_of_true rfl ⟨he, hg, .inl ⟨_, hn⟩⟩
  case defaultProfile hl hm hd =>
    have ⟨he, hg⟩ := h.hasRepository (by decide)
    exact iff_of_true rfl ⟨he, hg, .inr ⟨_, hl, _, hm, hd⟩⟩
  case noProfile               => 
    refine iff_of_false nofun fun hr => ?_
    obtain ⟨_, hn⟩ | ⟨_, hl, _, hm, hd⟩ := hr.profile
    case inl => exact hf .assignedProfile (by decide) (.assignedProfile hn)
    case inr => exact hf .defaultProfile (by decide) (.defaultProfile hl hm hd)

theorem decide_of_perm (hs : s.profiles = .ok offered) (hs' : s'.profiles = .ok offered') 
    (hp : offered'.Perm offered) : decide s' p = decide s p := by
  by_cases h : p.Undecided
  case neg => 
    have ⟨_, hr⟩ := exists_decides_of_decided h
    rw [(hr s').left, (hr s).left]
  case pos => 
    have ha : offered'.any (·.isDefault) = offered.any (·.isDefault) := hp.any_eq
    rw [decide_of_listed h hs', decide_of_listed h hs, ha]

-- How it is decided where the operations of a project run, and what the server is asked for it.
structure Justified (s : Server) (p : Project) : Prop where
  remote      : (∃ r, (decide s p).result = .ok r ∧ r.mode = .remote) ↔ Remotely p s.profiles
  fails       : ∀ f, (decide s p).result = .error f ↔ 
    p.remoteEnabled ∧ p.HasRepository ∧ p.runner = none ∧ s.profiles = .error f
  otherwise   : ¬Remotely p s.profiles → (∀ f, (decide s p).result ≠ .error f) → 
    ∃ r, (decide s p).result = .ok r ∧ r.mode = .here
  reason      : ∀ r, (decide s p).result = .ok r ↔ Decides p s.profiles r
  asksOnce    : p.Undecided → (decide s p).events = [.askedProfiles]
  asksNothing : ¬p.Undecided → (decide s p).events = []
  unordered   : ∀ s' offered offered', s.profiles = .ok offered → s'.profiles = .ok offered' → 
    offered'.Perm offered → decide s' p = decide s p
  -- Neither the profiles nor a failure to list them can change what is decided without them.
  independent : ¬p.Undecided → ∀ s', decide s' p = decide s p

theorem justified_by_first_condition (s : Server) (p : Project) : Justified s p where
  remote := by
    constructor
    case mp  => exact fun ⟨_, hr, hm⟩ => (decide_eq_ok_iff.mp hr).remote_iff.mp hm
    case mpr =>
      intro h
      cases hr : (decide s p).result
      case ok r    => exact ⟨r, rfl, (decide_eq_ok_iff.mp hr).remote_iff.mpr h⟩
      case error f =>
        have ⟨hu, hs⟩ := decide_eq_error_iff.mp hr
        obtain ⟨_, hn⟩ | ⟨_, hl, _⟩ := h.profile
        case inl => cases hu.runner.symm.trans hn
        case inr => cases hs.symm.trans hl
  fails f := by rw [decide_eq_error_iff, undecided_iff, and_assoc, and_assoc]
  otherwise h hf := by
    cases hr : (decide s p).result
    case error f => exact absurd hr (hf f)
    case ok r    => 
      refine ⟨r, rfl, ?_⟩
      cases hm : r.mode
      case here   => rfl
      case remote => exact absurd ((decide_eq_ok_iff.mp hr).remote_iff.mp hm) h
  reason _ := decide_eq_ok_iff
  asksOnce h := by 
    rw [decide_of_undecided h]
    cases s.profiles <;> rfl
  asksNothing h := by
    have ⟨_, hr⟩ := exists_decides_of_decided h
    rw [(hr s).left, Traced.events_pure]
  unordered _ _ _ hs hs' hp := decide_of_perm hs hs' hp
  independent h s' := by
    have ⟨_, hr⟩ := exists_decides_of_decided h
    rw [(hr s').left, (hr s).left]

-- Without a runner of its own, a project depends on the profiles, but not on their order. With one it does
-- not even matter that they cannot be listed.
theorem justified_by_first_condition_git : 
    let p : Project := ⟨"shop", ["web"], true, some (.git "https://git/shop" "" ""), none⟩ 
    let q : Project := { p with runner := some "large" }
    let f : Failure := .of (.other "A")
    let listing (profiles : Except Failure (List Profile)) : Server := ⟨fun _ => .ok p, profiles⟩ 
    let s := listing (.ok [⟨true⟩, ⟨false⟩])
    let unmarked := listing (.ok [⟨false⟩])
    (∃ r, (decide s p).result = .ok r ∧ r.mode = .remote) ∧ (decide s p).events = [.askedProfiles] ∧ 
      decide (listing (.ok [⟨false⟩, ⟨true⟩])) p = decide s p ∧ 
      (∃ r, (decide unmarked p).result = .ok r ∧ r.mode = .here) ∧ 
      (decide (listing (.error f)) p).result = .error f ∧ 
      (decide s q).events = [] ∧ decide (listing (.error f)) q = decide s q := by
  intro p q f listing s unmarked
  have undecided : p.Undecided := ⟨rfl, ⟨_, rfl, rfl⟩, rfl⟩ 
  have decided : ¬q.Undecided := fun h => nomatch h.runner
  have ofP := justified_by_first_condition s p
  have ofQ := justified_by_first_condition s q
  have atUnmarked := justified_by_first_condition unmarked p
  have atBroken := justified_by_first_condition (listing (.error f)) p
  have remotely : Remotely p s.profiles := 
    ⟨rfl, ⟨_, _, _, rfl⟩, .inr ⟨_, rfl, ⟨true⟩, List.mem_cons_self, rfl⟩⟩ 
  have locally : ¬Remotely p unmarked.profiles := by
    intro h
    obtain ⟨_, hn⟩ | ⟨_, ⟨⟩, _, hm, hd⟩ := h.profile
    case inl => cases hn
    case inr => 
      cases List.mem_singleton.mp hm
      cases hd
  have listed : ∀ g, (decide unmarked p).result ≠ .error g := 
    fun g hg => nomatch ((atUnmarked.fails g).mp hg).right.right.right
  refine ⟨ofP.remote.mpr remotely, ofP.asksOnce undecided, ?_, atUnmarked.otherwise locally listed, ?_, 
    ofQ.asksNothing decided, ofQ.independent decided _⟩ 
  case refine_1 => exact ofP.unordered _ _ _ rfl rfl (List.Perm.swap _ _ _)
  case refine_2 => exact (atBroken.fails f).mpr ⟨rfl, ⟨_, _, _, rfl⟩, rfl, rfl⟩ 

end Routing
end Rollout
