import Rollout.Program
import Rollout.Proofs.CommandContext.Footprint
import Rollout.Proofs.Environment
import Rollout.Proofs.Except
namespace Rollout.CommandLine

-- The connection that a command line leads to.
def connection (line : CommandLine) (w : World) : Except Failure (Option Connection) :=
  (Connection.resolve line.flags.server? (contexts w)).result

-- What a run knows about its server before the command is prepared: its URL, or that there is none.
inductive Connects (line : CommandLine) (w : World) : Option String → Prop
  | nowhere (connection : line.connection w = .ok none) : Connects line w none
  | server {c base} (connection : line.connection w = .ok (some c)) (address : c.baseUrl? = .ok base) 
    (client : w.client c = .ok ()) : Connects line w (some base)

-- A run knows where it is, what its server is and what its environment says.
structure Settles (line : CommandLine) (w : World) (s : Setting) : Prop where
  located  : w.workingDir = .ok s.dir
  connects : Connects line w s.url
  text     : w.environment.variables? = some s.environment

-- Why a run does not get as far as the preparation of its command.
inductive Unsettled (line : CommandLine) (w : World) : RunError → Prop
  | unlocated {f} (located : w.workingDir = .error f) : 
    Unsettled line w (.failure (f.within (.other "determine working directory")))
  | unconnected {dir f} (located : w.workingDir = .ok dir) (connection : line.connection w = .error f) : 
    Unsettled line w (.failure f)
  | unaddressed {dir c f} (located : w.workingDir = .ok dir) 
    (connection : line.connection w = .ok (some c)) (address : c.baseUrl? = .error f) : 
    Unsettled line w (.failure f)
  | unreachable {dir c base f} (located : w.workingDir = .ok dir)
    (connection : line.connection w = .ok (some c)) (address : c.baseUrl? = .ok base) 
    (client : w.client c = .error f) : 
    Unsettled line w (.failure (f.within (.other "build http client")))
  | foreign {dir url} (located : w.workingDir = .ok dir) (connects : Connects line w url) 
    (foreign : w.environment.Foreign) : Unsettled line w .panicked

variable {line : CommandLine} {w : World} {s : Setting} {e : RunError} {c : Connection} {f : Failure}
variable {url : Option String}

theorem reach_eq_ok_iff {base : String} : 
    reach w c = .ok base ↔ c.baseUrl? = .ok base ∧ w.client c = .ok () := by
  cases hu : c.baseUrl? <;> cases hc : w.client c <;> simp [reach, hu, hc, Failure.during]

theorem reach_eq_error_iff : 
    reach w c = .error f ↔ 
      c.baseUrl? = .error f ∨ 
      ∃ base g, c.baseUrl? = .ok base ∧ w.client c = .error g ∧ 
        g.within (.other "build http client") = f := by
  cases hu : c.baseUrl? <;> cases hc : w.client c <;> simp [reach, hu, hc, Failure.during]

theorem mapM_reach_eq_error_iff {connection : Option Connection} : 
    connection.mapM (reach w) = .error f ↔ ∃ c, connection = some c ∧ reach w c = .error f := by
  cases connection <;> simp [Functor.map, Except.map_eq_error_iff]

theorem capture_eq_ok_iff {env : Environment} : 
    capture w = .ok env ↔ w.environment.variables? = some env := by
  cases h : w.environment.variables? <;> simp [capture, h]

theorem capture_eq_error_iff : capture w = .error e ↔ w.environment.Foreign ∧ e = .panicked := by
  rw [← RawEnvironment.variables?_eq_none_iff]
  cases h : w.environment.variables? <;> simp [capture, h, eq_comm]

theorem connects_iff : 
    Connects line w url ↔ 
      ∃ connection, line.connection w = .ok connection ∧ connection.mapM (reach w) = .ok url := by
  constructor
  case mp  => 
    intro h
    cases h
    case nowhere connection               => exact ⟨_, connection, rfl⟩ 
    case server connection address client => 
      exact ⟨_, connection, by simp [reach_eq_ok_iff.mpr ⟨address, client⟩]⟩ 
  case mpr =>
    rintro ⟨connection, hc, h⟩ 
    cases connection
    case none   => cases h; exact .nowhere hc
    case some c =>
      obtain ⟨base, hb, rfl⟩ : ∃ base, reach w c = .ok base ∧ some base = url := by
        simpa [Functor.map, Except.map_eq_ok_iff] using h
      have ⟨address, client⟩ := reach_eq_ok_iff.mp hb
      exact .server hc address client

theorem settle_eq_ok_iff : (line.settle w).result = .ok s ↔ Settles line w s := by
  obtain ⟨dir, url, env⟩ := s
  simp only [settle, Traced.result_bind_eq_ok_iff, Traced.result_mapError_eq_ok_iff, Traced.result_of, 
    Traced.result_pure, Failure.during, Traced.mapError_eq_ok_iff, capture_eq_ok_iff]
  constructor
  case mp  =>
    rintro ⟨_, located, connection, hc, _, hu, _, text, ⟨⟩⟩
    exact ⟨located, connects_iff.mpr ⟨connection, hc, hu⟩, text⟩
  case mpr =>
    rintro ⟨located, connects, text⟩
    have ⟨connection, hc, hu⟩ := connects_iff.mp connects
    exact ⟨_, located, connection, hc, _, hu, _, text, rfl⟩

theorem settle_eq_error_iff : (line.settle w).result = .error e ↔ Unsettled line w e := by
  simp only [settle, Traced.result_bind_eq_error_iff, Traced.result_mapError_eq_ok_iff, 
    Traced.result_mapError_eq_error_iff, Traced.result_of, Traced.result_pure, Failure.during, 
    Traced.mapError_eq_ok_iff, Traced.mapError_eq_error_iff, capture_eq_error_iff]
  constructor
  case mp  =>
    rintro (⟨_, ⟨f, located, rfl⟩, rfl⟩ | ⟨dir, located, ⟨f, hc, rfl⟩ | ⟨connection, hc, h⟩⟩)
    case inl         => exact .unlocated located
    case inr.inl     => exact .unconnected located hc
    case inr.inr     =>
      obtain ⟨f, hu, rfl⟩ | ⟨url, hu, ⟨foreign, rfl⟩ | ⟨_, _, h⟩⟩ := h
      case inl         => 
        obtain ⟨c, rfl, hr⟩ := mapM_reach_eq_error_iff.mp hu
        obtain address | ⟨_, _, address, client, rfl⟩ := reach_eq_error_iff.mp hr
        case inl => exact .unaddressed located hc address
        case inr => exact .unreachable located hc address client
      case inr.inl     => exact .foreign located (connects_iff.mpr ⟨_, hc, hu⟩) foreign
      case inr.inr     => cases h
  case mpr =>
    intro h
    cases h
    case unlocated located                                => exact .inl ⟨_, ⟨_, located, rfl⟩, rfl⟩ 
    case unconnected located connection                   => 
      exact .inr ⟨_, located, .inl ⟨_, connection, rfl⟩⟩ 
    case unaddressed located connection address           =>
      have reached := mapM_reach_eq_error_iff.mpr ⟨_, rfl, reach_eq_error_iff (w := w).mpr (.inl address)⟩
      exact .inr ⟨_, located, .inr ⟨_, connection, .inl ⟨_, reached, rfl⟩⟩⟩ 
    case unreachable located connection address client    =>
      have refused := reach_eq_error_iff.mpr (.inr ⟨_, _, address, client, rfl⟩)
      have reached := mapM_reach_eq_error_iff.mpr ⟨_, rfl, refused⟩
      exact .inr ⟨_, located, .inr ⟨_, connection, .inl ⟨_, reached, rfl⟩⟩⟩ 
    case foreign located connects foreign                 =>
      have ⟨_, connection, reached⟩ := connects_iff.mp connects
      exact .inr ⟨_, located, .inr ⟨_, connection, .inr ⟨_, reached, .inl ⟨foreign, rfl⟩⟩⟩⟩ 

theorem events_settle (line : CommandLine) (w : World) : 
    ∀ ev ∈ (line.settle w).events, ∃ s, CommandContext.Stage.ofEvent? ev = some s := by
  refine Traced.forall_events_bind nofun fun _ _ => ?_
  refine Traced.forall_events_bind ?_ fun _ _ => ?_
  · exact fun ev hm => ⟨_, CommandContext.events_resolve_connection _ _ ev hm⟩
  · exact Traced.forall_events_bind nofun fun _ _ => Traced.forall_events_bind nofun fun _ _ => nofun

end Rollout.CommandLine
