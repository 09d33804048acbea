import Mathlib.Data.List.Induction
import Mathlib.Data.List.TakeWhile
import Rollout.Proofs.FlagOrder
namespace Rollout.FlagOrder

-- The ways to write a flag: behind one or two hyphens, and with a value or without one.
def Writes (name arg : String) : Prop :=
  ∃ hyphens ∈ ["-", "--"], arg = hyphens ++ name ∨ ∃ value, arg = hyphens ++ name ++ "=" ++ value

-- Names that can be told from the hyphens in front of them and from a value behind them.
structure Plain (name : String) : Prop where
  unhyphened : ∀ rest, name ≠ "-" ++ rest
  unvalued   : '=' ∉ name.toList

-- Arguments that are read one after the other, before a separator comes up.
def Front (args front : List String) : Prop :=
  front <+: args ∧ "--" ∉ front

def Mentions (front : List String) (name : String) : Prop :=
  ∃ arg ∈ front, Writes name arg

-- The flags that are misplaced among the arguments, in the order in which they come up for the first 
-- time.
structure Reported (args recognized flags : List String) : Prop where
  mem      : ∀ name, name ∈ flags ↔ 
    name ∈ recognized ∧ Plain name ∧ ∃ front, Front args front ∧ Mentions front name
  distinct : flags.Nodup
  ordered  : flags.Pairwise fun earlier later => 
    ∃ front, Front args front ∧ Mentions front earlier ∧ ¬Mentions front later

variable {args front recognized flags flags' : List String} {name arg : String} {cs n : List Char}

section

variable {α : Type} [DecidableEq α] {l l' : List α} {a : α}

theorem eraseDups_concat (l : List α) (a : α) : 
    (l ++ [a]).eraseDups = if a ∈ l then l.eraseDups else l.eraseDups ++ [a] := by
  rw [List.eraseDups_append]
  split
  case isTrue h  => simp [List.removeAll, h]
  case isFalse h => simp [List.removeAll, h, List.eraseDups_cons]

-- Of two elements that are left, the first one comes up in some front of the list that the second one 
-- does not come up in.
theorem pairwise_eraseDups (l : List α) : 
    l.eraseDups.Pairwise fun a b => ∃ front, front <+: l ∧ a ∈ front ∧ b ∉ front := by
  induction l using List.reverseRecOn
  case nil                    => exact .nil
  case append_singleton l c hi =>
    have hl : l.eraseDups.Pairwise fun a b => ∃ front, front <+: l ++ [c] ∧ a ∈ front ∧ b ∉ front := 
      hi.imp fun ⟨front, hf, h⟩ => ⟨front, hf.trans (List.prefix_append _ _), h⟩ 
    rw [eraseDups_concat]
    split
    case isTrue     => exact hl
    case isFalse hc =>
      refine List.pairwise_append.mpr ⟨hl, List.pairwise_singleton _ _, fun a ha b hb => ?_⟩ 
      cases List.mem_singleton.mp hb
      exact ⟨l, List.prefix_append _ _, List.mem_eraseDups.mp ha, hc⟩ 

theorem nodup_eraseDups (l : List α) : l.eraseDups.Nodup :=
  (pairwise_eraseDups l).imp fun ⟨_, _, ha, hb⟩ he => hb (he ▸ ha)

theorem eraseDups_prefix (h : l <+: l') : l.eraseDups <+: l'.eraseDups := by
  obtain ⟨_, rfl⟩ := h
  rw [List.eraseDups_append]
  exact List.prefix_append _ _

theorem takeWhile_ne_eq_iff : 
    l.takeWhile (· ≠ a) = l' ↔ a ∉ l' ∧ (l = l' ∨ ∃ rest, l = l' ++ a :: rest) := by
  constructor
  case mp  =>
    rintro rfl
    refine ⟨fun h => by simpa using List.mem_takeWhile_imp h, ?_⟩ 
    have hl := List.takeWhile_append_dropWhile (p := (· ≠ a)) (l := l)
    have hd := List.head?_dropWhile_not (· ≠ a) l
    cases hr : l.dropWhile (· ≠ a) <;> rw [hr] at hl hd
    case nil         => exact .inl (by simpa using hl.symm)
    case cons b rest => 
      obtain rfl : b = a := by simpa using hd
      exact .inr ⟨rest, hl.symm⟩ 
  case mpr =>
    intro ⟨ha, hl⟩ 
    have hp : ∀ b ∈ l', decide (b ≠ a) = true := fun b hb => decide_eq_true (ne_of_mem_of_not_mem hb ha)
    obtain rfl | ⟨rest, rfl⟩ := hl
    case inl => exact List.takeWhile_eq_self_iff.mpr hp
    case inr => rw [List.takeWhile_append_of_pos hp]; simp

end

-- What stands behind the hyphens of a flag starts with something else.
theorem exists_of_flagChars? (h : flagChars? cs = some n) : 
    ∃ hyphens ∈ ["-", "--"], ∃ rest, 
      cs = hyphens.toList ++ rest ∧ rest.head? ≠ some '-' ∧ rest.takeWhile (· ≠ '=') = n := by
  unfold flagChars? at h
  split at h <;> cases h
  case h_2 rest hr      =>
    refine ⟨"--", by simp, rest, rfl, fun hd => ?_, rfl⟩ 
    have ⟨_, ht⟩ := List.head?_eq_some_iff.mp hd
    exact hr _ (by rw [ht])
  case h_3 c rest _ hc  => 
    refine ⟨"-", by simp, c :: rest, rfl, fun hd => ?_, rfl⟩ 
    cases hd
    exact hc rfl

theorem flagChars?_append {hyphens : String} {rest : List Char} (hh : hyphens ∈ ["-", "--"]) 
    (hn : rest ≠ []) (hd : rest.head? ≠ some '-') : 
    flagChars? (hyphens.toList ++ rest) = some (rest.takeWhile (· ≠ '=')) := by
  obtain ⟨c, rest, rfl⟩ := List.exists_cons_of_ne_nil hn
  have hc : c ≠ '-' := by simpa using hd
  simp only [List.mem_cons, List.not_mem_nil, or_false] at hh
  obtain rfl | rfl := hh
  all_goals simp [flagChars?, hc]

theorem plain_iff : Plain name ↔ name.toList.head? ≠ some '-' ∧ '=' ∉ name.toList := by
  constructor
  case mp  =>
    refine fun h => ⟨fun hd => ?_, h.unvalued⟩ 
    have ⟨rest, hr⟩ := List.head?_eq_some_iff.mp hd
    exact h.unhyphened (.ofList rest) (String.toList_injective (by simp [hr]))
  case mpr =>
    refine fun ⟨hd, he⟩ => ⟨fun rest hr => hd ?_, he⟩ 
    simp [hr]

theorem writes_iff : 
    Writes name arg ↔ 
      ∃ hyphens ∈ ["-", "--"], ∃ rest, 
        arg.toList = hyphens.toList ++ rest ∧ 
          (rest = name.toList ∨ ∃ value, rest = name.toList ++ '=' :: value) := by
  constructor
  case mp  =>
    rintro ⟨hyphens, hh, rfl | ⟨value, rfl⟩⟩ 
    case inl => exact ⟨hyphens, hh, name.toList, String.toList_append, .inl rfl⟩ 
    case inr => exact ⟨hyphens, hh, name.toList ++ '=' :: value.toList, by simp, .inr ⟨_, rfl⟩⟩ 
  case mpr =>
    rintro ⟨hyphens, hh, _, ha, rfl | ⟨value, rfl⟩⟩ 
    case inl => exact ⟨hyphens, hh, .inl (String.toList_injective (by simp [ha]))⟩ 
    case inr => exact ⟨hyphens, hh, .inr ⟨.ofList value, String.toList_injective (by simp [ha])⟩⟩ 

-- A value changes nothing about how a flag starts.
theorem head?_of_valued {rest : List Char} (hn : n ≠ []) (h : rest = n ∨ ∃ value, rest = n ++ '=' :: value) : 
    rest ≠ [] ∧ rest.head? = n.head? := by
  obtain ⟨c, n, rfl⟩ := List.exists_cons_of_ne_nil hn
  obtain rfl | ⟨value, rfl⟩ := h
  all_goals simp

-- An argument names a flag exactly if it is a way to write it.
theorem flagName?_eq_some_iff (h : name ≠ "") : flagName? arg = some name ↔ Plain name ∧ Writes name arg := by
  have hn : name.toList ≠ [] := by simpa using h
  have hc : flagName? arg = some name ↔ flagChars? arg.toList = some name.toList := by
    rw [flagName?, Option.map_eq_some_iff]
    constructor
    case mp  => rintro ⟨n, hc, rfl⟩; simpa using hc
    case mpr => exact fun hc => ⟨_, hc, by simp⟩ 
  rw [hc, plain_iff, writes_iff]
  constructor
  case mp  =>
    intro hc
    obtain ⟨hyphens, hh, rest, ha, hd, ht⟩ := exists_of_flagChars? hc
    have ⟨he, hr⟩ := takeWhile_ne_eq_iff.mp ht
    exact ⟨⟨(head?_of_valued hn hr).right ▸ hd, he⟩, hyphens, hh, rest, ha, hr⟩ 
  case mpr =>
    rintro ⟨⟨hd, he⟩, hyphens, hh, rest, ha, hr⟩ 
    have ⟨hs, hh'⟩ := head?_of_valued hn hr
    rw [ha, flagChars?_append hh hs (hh' ▸ hd), takeWhile_ne_eq_iff.mpr ⟨he, hr⟩]

theorem front_iff : Front args front ↔ front <+: args.takeWhile (· ≠ "--") := by
  constructor
  case mp  =>
    rintro ⟨⟨rest, rfl⟩, hs⟩ 
    have hp : ∀ arg ∈ front, decide (arg ≠ "--") = true := 
      fun arg ha => decide_eq_true (ne_of_mem_of_not_mem ha hs)
    rw [List.takeWhile_append_of_pos hp]
    exact List.prefix_append _ _
  case mpr =>
    intro h
    refine ⟨h.trans (List.takeWhile_prefix _), fun hm => ?_⟩ 
    simpa using List.mem_takeWhile_imp (h.subset hm)

theorem exists_mentions_iff : 
    (∃ front, Front args front ∧ Mentions front name) ↔ ∃ arg ∈ args.takeWhile (· ≠ "--"), Writes name arg := by
  constructor
  case mp  => exact fun ⟨_, hf, arg, ha, hw⟩ => ⟨arg, (front_iff.mp hf).subset ha, hw⟩ 
  case mpr => exact fun h => ⟨_, front_iff.mpr List.prefix_rfl, h⟩ 

theorem misplaced_prefix (recognized : List String) (h : front <+: args) : 
    misplaced front recognized <+: misplaced args recognized := by
  have hs : "--" ∉ front.takeWhile (· ≠ "--") := fun hm => by simpa using List.mem_takeWhile_imp hm
  have hf : front.takeWhile (· ≠ "--") <+: args.takeWhile (· ≠ "--") := 
    front_iff.mp ⟨(List.takeWhile_prefix _).trans h, hs⟩ 
  exact eraseDups_prefix ((hf.filterMap flagName?).filter _)

section

variable (named : ∀ name ∈ recognized, name ≠ "")
include named

theorem mem_misplaced_iff_mentions : 
    name ∈ misplaced args recognized ↔ 
      name ∈ recognized ∧ Plain name ∧ ∃ front, Front args front ∧ Mentions front name := by
  rw [mem_misplaced_iff, exists_mentions_iff]
  refine and_congr_right fun hr => ?_
  simp only [flagName?_eq_some_iff (named name hr)]
  exact ⟨fun ⟨arg, ha, hp, hw⟩ => ⟨hp, arg, ha, hw⟩, fun ⟨hp, arg, ha, hw⟩ => ⟨arg, ha, hp, hw⟩⟩ 

theorem mem_names_iff (hr : name ∈ recognized) (hp : Plain name) : 
    name ∈ (front.filterMap flagName?).filter (· ∈ recognized) ↔ Mentions front name := by
  simp [Mentions, flagName?_eq_some_iff (named name hr), hr, hp]

theorem pairwise_misplaced : 
    (misplaced args recognized).Pairwise fun earlier later => 
      ∃ front, Front args front ∧ Mentions front earlier ∧ ¬Mentions front later := by
  refine (pairwise_eraseDups _).imp_of_mem fun {earlier later} he hl ⟨names, hn, hm, hm'⟩ => ?_
  -- The names at the front are those of some of the arguments at the front.
  obtain ⟨_, hn⟩ := hn
  obtain ⟨_, _, hx, rfl, _⟩ := List.filter_eq_append_iff.mp hn.symm
  obtain ⟨front, _, hf, rfl, _⟩ := List.filterMap_eq_append_iff.mp hx
  have ⟨hr, hp, _⟩ := (mem_misplaced_iff_mentions named).mp he
  have ⟨hr', hp', _⟩ := (mem_misplaced_iff_mentions named).mp hl
  rw [mem_names_iff named hr hp] at hm
  rw [mem_names_iff named hr' hp'] at hm'
  exact ⟨front, front_iff.mpr ⟨_, hf.symm⟩, hm, hm'⟩ 

theorem reported_misplaced : Reported args recognized (misplaced args recognized) where
  mem _    := mem_misplaced_iff_mentions named
  distinct := nodup_eraseDups _
  ordered  := pairwise_misplaced named

end

theorem Mentions.mono (h : Mentions front name) (hf : front <+: front') : Mentions front' name :=
  h.imp fun _ ⟨ha, hw⟩ => ⟨hf.subset ha, hw⟩ 

-- Of two fronts one continues the other, so two flags come up in one order only.
theorem Reported.unique (h : Reported args recognized flags) (h' : Reported args recognized flags') : 
    flags = flags' := by
  have hp : flags.Perm flags' := 
    (List.perm_ext_iff_of_nodup h.distinct h'.distinct).mpr fun name => by rw [h.mem, h'.mem]
  refine hp.eq_of_pairwise (fun m n _ _ ⟨front, hf, hm, hn⟩ ⟨front', hf', hn', hm'⟩ => ?_) h.ordered h'.ordered
  cases List.prefix_or_prefix_of_prefix hf.left hf'.left
  case inl hl => exact absurd (hm.mono hl) hm'
  case inr hl => exact absurd (hn'.mono hl) hn

theorem exists_error_iff : 
    (∃ m, check args recognized = .error m) ↔ ∃ name, name ∈ misplaced args recognized := by
  simp only [check_eq_error_iff]
  constructor
  case mp  => exact fun ⟨_, hm, hn⟩ => List.exists_mem_of_ne_nil _ (hm ▸ hn)
  case mpr => exact fun ⟨_, hn⟩ => ⟨⟨_⟩, rfl, List.ne_nil_of_mem hn⟩ 

theorem check_append_separator (before after after' : List String) : 
    check (before ++ "--" :: after) recognized = check (before ++ "--" :: after') recognized := by
  rw [check, misplaced_append_separator, check, misplaced_append_separator]

theorem error_of_front {m : Misplaced} (hf : front <+: args) (h : check front recognized = .error m) : 
    ∃ m', check args recognized = .error m' ∧ m.flags <+: m'.flags := by
  have ⟨hm, hn⟩ := check_eq_error_iff.mp h
  have hp : m.flags <+: misplaced args recognized := hm ▸ misplaced_prefix recognized hf
  exact ⟨⟨_⟩, check_eq_error_iff.mpr ⟨rfl, hp.ne_nil hn⟩, hp⟩ 

-- Flags are refused if and only if they are recognized in front of the separator, and all of them are told
-- in the order in which they come up. What stands behind the separator makes no difference, and arguments 
-- that follow can only add to what is told.
theorem misplaced_exactly (named : ∀ name ∈ recognized, name ≠ "") : 
    (∀ m, check args recognized = .error m ↔ m.flags ≠ [] ∧ Reported args recognized m.flags) ∧ 
    ((∃ m, check args recognized = .error m) ↔ 
      ∃ name ∈ recognized, Plain name ∧ ∃ front, Front args front ∧ Mentions front name) ∧ 
    (∀ before after after', args = before ++ "--" :: after → 
      check (before ++ "--" :: after') recognized = check args recognized) ∧ 
    ∀ front m, front <+: args → check front recognized = .error m → 
      ∃ m', check args recognized = .error m' ∧ m.flags <+: m'.flags := by
  have reported : Reported args recognized (misplaced args recognized) := reported_misplaced named
  refine ⟨fun m => ?exact, ?fails, ?behind, fun _ _ => error_of_front⟩ 
  case exact  =>
    rw [check_eq_error_iff, and_comm]
    exact and_congr_right fun _ => ⟨fun hm => hm ▸ reported, fun h => h.unique reported⟩ 
  case fails  => simp only [exists_error_iff, reported.mem]
  case behind => 
    rintro before after after' rfl
    exact check_append_separator before after' after

-- A flag comes up with a value, and then again. One text only looks like a flag, and one flag stands behind 
-- the separator.
theorem misplaced_exactly_twice :
    let front := ["shop", "--var=a=b"]
    let before := front ++ ["-a", "---label", "-é", "-var"]
    let recognized := ["a", "label", "var"]
    check (before ++ ["--", "-label"]) recognized = .error ⟨["var", "a"]⟩ ∧ 
    Reported (before ++ ["--", "-label"]) recognized ["var", "a"] ∧ 
    (∀ after, check (before ++ "--" :: after) recognized = .error ⟨["var", "a"]⟩) ∧ 
    check front recognized = .error ⟨["var"]⟩ ∧ 
    ∃ m, check before recognized = .error m ∧ ["var"] <+: m.flags := by
  intro front before recognized
  have named : ∀ name ∈ recognized, name ≠ "" := by decide
  have failed : check (before ++ ["--", "-label"]) recognized = .error ⟨["var", "a"]⟩ := by decide +kernel
  have failed' : check front recognized = .error ⟨["var"]⟩ := by decide +kernel
  have reported : Reported (before ++ ["--", "-label"]) recognized ["var", "a"] := 
    (((misplaced_exactly named).left _).mp failed).right
  have behind after : check (before ++ "--" :: after) recognized = .error ⟨["var", "a"]⟩ := 
    failed ▸ (misplaced_exactly named).right.right.left before ["-label"] after rfl
  have front' : front <+: before := List.prefix_append _ _
  exact ⟨failed, reported, behind, failed', (misplaced_exactly named).right.right.right _ _ front' failed'⟩ 

end Rollout.FlagOrder
