import Rollout.Flags
import Rollout.Proofs.ContextStore.Current
namespace Rollout.Connection

-- The URL that requests over a connection start with, apart from its scheme: the address without 
-- the blanks around it and the slashes at its end.
inductive HasUrl (c : Connection) : String → Prop
  | whole {address url : String} (trims : Text.Trims c.address address) 
    (scheme : "://".toList <:+: address.toList) 
    (cut : Path.DropsTrailing (· = '/') address.toList url.toList) : HasUrl c url
  | completed {address shown : String} (trims : Text.Trims c.address address) 
    (noScheme : ¬"://".toList <:+: address.toList) 
    (cut : Path.DropsTrailing (· = '/') address.toList shown.toList) : 
    HasUrl c ((if c.tls then "https://" else "http://") ++ shown)

-- The connection that the flags or else the default context lead to, with all settings from one of
-- them.
inductive Chosen (flags : Flags) (store : ContextStore) : Option Connection → Prop
  | flag {s address} (given : flags.serverAddress = some s) (nonblank : Text.isBlank s = false) 
    (trims : Text.Trims s address) : 
    Chosen flags store (some ⟨address, flags.serverTls, flags.skipVerify⟩)
  | context {c} (silent : flags.serverAddress.all Text.isBlank) (holds : store.Holds (some c)) 
    (nonblank : Text.isBlank c.connection.address = false) : Chosen flags store (some c.connection)
  | nothing {c?} (silent : flags.serverAddress.all Text.isBlank) (holds : store.Holds c?) 
    (blank : ∀ c ∈ c?, Text.isBlank c.connection.address) : Chosen flags store none

variable {c : Connection} {c? : Option Connection} {url : String} {cs : List Char}
variable {flags : Flags} {store : ContextStore} {f : Failure}

theorem hasScheme_iff : hasScheme cs ↔ "://".toList <:+: cs := by
  have hs : "://".toList = [':', '/', '/'] := rfl
  fun_induction hasScheme cs
  case case1 cs        => simpa using (List.prefix_append [':', '/', '/'] cs).isInfix
  case case2 c cs h hi => 
    have hp : ¬"://".toList <+: c :: cs := by
      rintro ⟨rest, hr⟩ 
      cases hr
      exact h rest rfl rfl
    rw [List.infix_cons_iff, or_iff_right hp]
    exact hi
  case case3           => simp

theorem baseUrl?_of_blank (h : Text.isBlank c.address) : c.baseUrl? = .error (.of .noAddress) := by
  simp [baseUrl?, Text.isEmpty_trimChars, h]

theorem baseUrl?_of_trims {address shown : String} (h : Text.isBlank c.address = false) 
    (ht : Text.Trims c.address address) 
    (hd : Path.DropsTrailing (· = '/') address.toList shown.toList) : 
    c.baseUrl? = .ok (if hasScheme address.toList then shown else c.scheme ++ shown) := by
  have ht : Text.trimChars c.address.toList = address.toList := by
    rw [← Text.trims_iff.mp ht, Text.toList_trim]
  have hd : String.ofList (withoutTrailingSlashes address.toList) = shown := by
    rw [withoutTrailingSlashes, Path.dropsTrailing_iff.mp hd, String.ofList_toList]
  have he : address.toList.isEmpty = false := by rw [← ht, Text.isEmpty_trimChars, h]
  simp only [baseUrl?, ht, hd, he, Bool.false_eq_true, if_false]

theorem exists_cut (address : String) : 
    ∃ shown : String, Path.DropsTrailing (· = '/') address.toList shown.toList :=
  ⟨String.ofList (withoutTrailingSlashes address.toList), 
    Path.dropsTrailing_iff.mpr (by rw [String.toList_ofList, withoutTrailingSlashes])⟩ 

theorem exists_baseUrl? (h : Text.isBlank c.address = false) : ∃ url, c.baseUrl? = .ok url := by
  have ⟨_, hd⟩ := exists_cut (Text.trim c.address)
  exact ⟨_, baseUrl?_of_trims h (Text.trims_trim c.address) hd⟩ 

theorem baseUrl?_eq_ok_iff : c.baseUrl? = .ok url ↔ Text.isBlank c.address = false ∧ HasUrl c url := by
  cases hb : Text.isBlank c.address
  case true  => simp [baseUrl?_of_blank hb]
  case false =>
    constructor
    case mp  =>
      intro h
      have ht := Text.trims_trim c.address
      have ⟨_, hd⟩ := exists_cut (Text.trim c.address)
      rw [baseUrl?_of_trims hb ht hd] at h
      by_cases hs : hasScheme (Text.trim c.address).toList
      case pos => 
        rw [if_pos hs] at h
        obtain rfl := Except.ok.inj h
        exact ⟨rfl, .whole ht (hasScheme_iff.mp hs) hd⟩
      case neg =>
        rw [if_neg hs] at h
        obtain rfl := Except.ok.inj h
        exact ⟨rfl, .completed ht (mt hasScheme_iff.mpr hs) hd⟩
    case mpr =>
      rintro ⟨-, hu⟩ 
      cases hu
      case whole ht hs hd     => rw [baseUrl?_of_trims hb ht hd, if_pos (hasScheme_iff.mpr hs)]
      case completed ht hs hd => 
        rw [baseUrl?_of_trims hb ht hd, if_neg (mt hasScheme_iff.mp hs), scheme]

theorem server?_eq_some_iff : flags.server? = some c ↔ 
    ∃ s, flags.serverAddress = some s ∧ Text.isBlank s = false ∧ Text.Trims s c.address ∧ 
      c.tls = flags.serverTls ∧ c.skipVerify = flags.skipVerify := by
  simp only [Flags.server?, Option.bind_eq_bind, Option.bind_eq_some_iff, Text.given?_eq_some_iff, 
    Option.pure_def, Option.some.injEq, Text.trims_iff]
  constructor
  case mp  => 
    rintro ⟨_, ⟨s, hs, hb, rfl⟩, rfl⟩ 
    exact ⟨s, hs, hb, rfl, rfl, rfl⟩ 
  case mpr =>
    intro ⟨s, hs, hb, ha, ht, hv⟩ 
    exact ⟨c.address, ⟨s, hs, hb, ha⟩, by rw [← ht, ← hv]⟩ 

-- What the flags name is a connection already.
theorem given?_server? (flags : Flags) : given? flags.server? = flags.server? := by
  cases h : flags.server?
  case none   => rfl
  case some c =>
    obtain ⟨s, _, hb, ht, _, _⟩ := server?_eq_some_iff.mp h
    simp [given?, Option.filter, (ht.of_not_blank hb).left]

theorem server?_eq_none_iff : flags.server? = none ↔ flags.serverAddress.all Text.isBlank := by
  rw [← Text.given?_eq_none_iff]
  cases h : Text.given? flags.serverAddress <;> simp [Flags.server?, h]

theorem resolve_of_some (h : flags.server? = some c) : 
    resolve flags.server? store = pure (some c) := by
  rw [resolve, given?_server?, h]

theorem resolve_of_none (h : flags.server? = none) : resolve flags.server? store = 
    store.current >>= fun c? => pure (given? (c?.map (·.connection))) := by
  rw [resolve, given?_server?, h]

theorem chosen_of_holds {s? : Option StoredContext} (h : flags.server? = none) (hs : store.Holds s?) : 
    Chosen flags store (given? (s?.map (·.connection))) := by
  have hn := server?_eq_none_iff.mp h
  cases s?
  case none   => exact .nothing hn hs nofun
  case some s => 
    cases hb : Text.isBlank s.connection.address
    case true  => simpa [given?, Option.filter, hb] using Chosen.nothing hn hs (by simpa using hb)
    case false => simpa [given?, Option.filter, hb] using Chosen.context hn hs hb

theorem result_eq_ok_iff : (resolve flags.server? store).result = .ok c? ↔ Chosen flags store c? := by
  constructor
  case mp  =>
    intro h
    cases hs : flags.server?
    case some c =>
      rw [resolve_of_some hs, Traced.result_pure] at h
      obtain rfl := Except.ok.inj h
      obtain ⟨s, hf, hb, ht, hc, hv⟩ := server?_eq_some_iff.mp hs
      have he : c = ⟨c.address, flags.serverTls, flags.skipVerify⟩ := Connection.ext rfl hc hv
      rw [he]
      exact .flag hf hb ht
    case none   => 
      rw [resolve_of_none hs, ContextStore.result_derived_eq_ok_iff] at h
      obtain ⟨s?, hc, rfl⟩ := h
      exact chosen_of_holds hs hc
  case mpr =>
    intro h
    cases h
    case flag hf hb ht       =>
      have hs : flags.server? = some ⟨_, flags.serverTls, flags.skipVerify⟩ := 
        server?_eq_some_iff.mpr ⟨_, hf, hb, ht, rfl, rfl⟩ 
      rw [resolve_of_some hs, Traced.result_pure]
    case context c hn hc hb  => 
      rw [resolve_of_none (server?_eq_none_iff.mpr hn), ContextStore.result_derived_eq_ok_iff]
      exact ⟨_, hc, by simp [given?, Option.filter, hb]⟩ 
    case nothing c? hn hc hb => 
      rw [resolve_of_none (server?_eq_none_iff.mpr hn), ContextStore.result_derived_eq_ok_iff]
      exact ⟨_, hc, by cases c? <;> simp_all [given?, Option.filter]⟩ 

theorem result_eq_error_iff : (resolve flags.server? store).result = .error f ↔ 
    flags.serverAddress.all Text.isBlank ∧ store.FailsWith f := by
  rw [← server?_eq_none_iff]
  cases hs : flags.server?
  case some c => rw [← hs, resolve_of_some hs]; simp [hs]
  case none   => 
    rw [← hs, resolve_of_none hs, ContextStore.result_derived_eq_error_iff, and_iff_right rfl]

theorem Chosen.not_blank (h : Chosen flags store (some c)) : Text.isBlank c.address = false := by
  cases h
  case flag hb ht => exact (ht.of_not_blank hb).left
  case context hb => exact hb

theorem HasUrl.of_noScheme (h : HasUrl c url) (hs : ¬"://".toList <:+: c.address.toList) : 
    ∃ address shown, Text.Trims c.address address ∧ 
      Path.DropsTrailing (· = '/') address.toList shown.toList ∧ 
      url = (if c.tls then "https://" else "http://") ++ shown := by
  cases h
  case whole ht hw _     => 
    obtain ⟨before, after, hc, _, _⟩ := ht.around
    exact absurd (hw.trans ⟨before, after, hc.symm⟩) hs
  case completed ht _ hd => exact ⟨_, _, ht, hd, rfl⟩ 

-- A connection comes from the flags or from the default context, never from both, and the server that
-- it leads to can always be asked: the URL of requests is known.
theorem chosen_from_one_source (flags : Flags) (store : ContextStore) : 
    (∀ c?, (resolve flags.server? store).result = .ok c? ↔ Chosen flags store c?) ∧ 
      (∀ f, (resolve flags.server? store).result = .error f ↔ 
        flags.serverAddress.all Text.isBlank ∧ store.FailsWith f) ∧ 
      (flags.serverAddress.all Text.isBlank = false → (resolve flags.server? store).events = [] ∧ 
        ∀ other, resolve flags.server? other = resolve flags.server? store) ∧ 
      ∀ c, Chosen flags store (some c) → ∃ url, c.baseUrl? = .ok url ∧ HasUrl c url ∧
        (¬"://".toList <:+: c.address.toList → ∃ address shown, Text.Trims c.address address ∧ 
          Path.DropsTrailing (· = '/') address.toList shown.toList ∧ 
          url = (if c.tls then "https://" else "http://") ++ shown) := by
  refine ⟨fun _ => result_eq_ok_iff, fun _ => result_eq_error_iff, fun hb => ?_, fun c hc => ?_⟩ 
  case refine_1 =>
    obtain ⟨c, hs⟩ := Option.ne_none_iff_exists'.mp (mt server?_eq_none_iff.mp (by simpa using hb))
    exact ⟨by rw [resolve_of_some hs, Traced.events_pure], 
      fun other => by rw [resolve_of_some hs, resolve_of_some hs]⟩ 
  case refine_2 =>
    obtain ⟨url, hu⟩ := exists_baseUrl? hc.not_blank
    have hh := (baseUrl?_eq_ok_iff.mp hu).right
    exact ⟨url, hu, hh, hh.of_noScheme⟩ 

-- The context asks for a connection without TLS, but the address is taken from the flags, and with it
-- the setting that they have.
theorem chosen_from_one_source_flags : 
    let flags : Flags := { serverAddress := some " example.org:8080// ", skipVerify := true }
    let c : Connection := ⟨"example.org:8080//", true, true⟩ 
    let store : ContextStore := ⟨.ok (some "prod"), fun _ => .ok ⟨"", ⟨"h:1", false, false⟩⟩⟩
    flags.serverAddress.all Text.isBlank = false ∧ (resolve flags.server? store).events = [] ∧ 
      (resolve flags.server? store).result = .ok (some c) ∧ ¬"://".toList <:+: c.address.toList ∧ 
      c.baseUrl? = .ok "https://example.org:8080" := by
  intro flags c store
  have hb : flags.serverAddress.all Text.isBlank = false := by decide
  have hn : ¬"://".toList <:+: c.address.toList := mt hasScheme_iff.mpr (by decide)
  have hc : Chosen flags store (some c) := .flag rfl (by decide) (Text.trims_iff.mpr (by decide))
  have ⟨hr, _, he, hu⟩ := chosen_from_one_source flags store
  obtain ⟨_, hu, _, hw⟩ := hu c hc
  obtain ⟨address, shown, ht, hd, rfl⟩ := hw hn
  have ha : address = "example.org:8080//" := (Text.trims_iff.mp ht).symm.trans (by decide)
  have hs : shown.toList = "example.org:8080".toList := 
    (Path.dropsTrailing_iff.mp hd).symm.trans (by rw [ha]; decide)
  refine ⟨hb, (he hb).left, (hr _).mpr hc, hn, ?_⟩ 
  rw [hu, String.ext hs]
  decide

end Rollout.Connection
