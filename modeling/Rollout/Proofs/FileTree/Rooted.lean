import Rollout.Proofs.FileTree.Change
namespace Rollout.FileTree

variable {t : FileTree} {p : Path} {loc loc' : Location} {n : Node} {segs : List String}

-- In a tree that was built up from its root, nothing stands but in directories.
def Rooted (t : FileTree) : Prop :=
  ∀ name loc n, t.node? (name :: loc) = some n → t.node? loc = some .directory

namespace Rooted

theorem empty (here : Location) : Rooted ⟨[], here⟩ :=
  nofun

theorem node?_of_suffix (h : Rooted t) (hn : t.node? loc = none) (hs : loc <:+ loc') : 
    t.node? loc' = none := by
  obtain ⟨names, rfl⟩ := hs
  induction names
  case nil               => exact hn
  case cons name names hi => 
    rw [List.cons_append]
    match hc : t.node? (name :: (names ++ loc)) with
    | none   => rfl
    | some _ => cases hi ▸ h _ _ _ hc

-- Where a walk stops because something is missing, there is nothing at its end either.
theorem node?_of_walk (h : Rooted t) (hd : ".." ∉ segs) (hw : t.walk loc segs = .error .notFound) : 
    t.node? (segs.foldl placeOf.step loc) = none := by
  induction segs generalizing loc
  case nil              => contradiction
  case cons seg segs hi =>
    match hn : t.node? loc with
    | none            => 
      rw [foldl_step hd]
      exact h.node?_of_suffix hn (List.suffix_append _ _)
    | some (.file _)  => cases walk_of_file hn ▸ hw
    | some .directory =>
      rw [walk_of_directory hn, Except.bind_eq_error_iff] at hw
      obtain hm | ⟨next, hm, hw⟩ := hw
      case inl => exact absurd hm (move_ne_notFound loc seg)
      case inr => 
        rw [List.foldl_cons, step_of_move hm]
        exact hi (fun h => hd (List.mem_cons_of_mem _ h)) hw

-- A directory covers what is put into it; a directory may be put anew, but nothing else in its place.
theorem put (h : Rooted t) (hf : t.node? loc = some .directory → n = .directory) 
    (hc : ∃ name parent, loc = name :: parent ∧ t.node? parent = some .directory) : 
    Rooted (t.put loc n) := by
  obtain ⟨name, parent, rfl, hp⟩ := hc
  intro seg place m hm
  have hd : t.node? place = some .directory := by
    by_cases he : seg :: place = name :: parent
    case pos => exact (List.cons.inj he).right ▸ hp
    case neg => exact h _ _ _ (node?_put_of_ne he ▸ hm)
  by_cases he : place = name :: parent
  case pos => rw [he, node?_put_self (List.cons_ne_nil _ _), hf (he ▸ hd)]
  case neg => rwa [node?_put_of_ne he]

theorem remove (h : Rooted t) (hf : t.node? loc ≠ some .directory) : Rooted (t.remove loc) := by
  intro seg place m hm
  have he : seg :: place ≠ loc := by
    rintro rfl
    cases node?_remove_self (List.cons_ne_nil _ _) ▸ hm
  have hd := h _ _ _ (node?_remove_of_ne he ▸ hm)
  rwa [node?_remove_of_ne (Keeps.ne_of_directory hf hd)]

theorem put_of_writable (h : Rooted t) (hw : Writable t p loc) : Rooted (t.put loc n) :=
  h.put (fun hd => absurd hd hw.free) hw.covered

theorem replace (h : Rooted t) (hs : t.node? loc ≠ some .directory) (hw : Writable t p loc') : 
    Rooted ((t.remove loc).put loc' n) := by
  have ⟨name, parent, he, hp⟩ := hw.covered
  refine (h.remove hs).put (fun hd => absurd (node?_of_node?_remove hd) hw.free) ⟨name, parent, he, ?_⟩ 
  rwa [node?_remove_of_ne (Keeps.ne_of_directory hs hp)]

theorem covered_of_walk (h : Rooted t) (hs : segs ≠ []) (hw : t.walk loc segs = .ok loc') 
    (hn : t.node? loc' = none) : 
    ∃ name parent, loc' = name :: parent ∧ t.node? parent = some .directory := by
  induction segs generalizing loc
  case nil              => contradiction
  case cons seg segs hi =>
    have ⟨next, hd, hm, hw⟩ := exists_move_of_walk hw
    cases segs
    case cons => exact hi nofun hw
    case nil  =>
      cases hw
      unfold move at hm
      split_ifs at hm
      all_goals cases hm
      case pos => cases hd.symm.trans hn
      case pos => 
        cases loc
        case nil  => contradiction
        case cons => cases (h _ _ _ hd).symm.trans hn
      case neg => exact ⟨_, _, rfl, hd⟩ 

theorem makeDirectories (h : Rooted t) (p : Path) : Rooted (t.makeDirectories p).1 := 
  makeDirectoriesWithin_induction (P := fun _ => True) (R := fun t t' => Rooted t → Rooted t') 
    (fun _ => id) (fun h h' => h' ∘ h) (fun _ hm h => by
      obtain ⟨loc, hl, hn, rfl⟩ := exists_of_makeDirectory hm
      have hc := h.covered_of_walk (Path.segments_ne_nil _) (locate_eq_ok_iff.mp hl).right hn
      exact h.put (fun _ => rfl) hc) (fun _ _ => trivial) _ t trivial h

end Rooted

end Rollout.FileTree
