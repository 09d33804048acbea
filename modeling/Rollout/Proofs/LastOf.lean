import Mathlib.Data.List.Basic
namespace Rollout

-- The element of a list that satisfies a predicate, and after which no other one does. It is the one
-- that counts where later settings replace earlier ones.
inductive LastOf (p : α → Prop) : List α → α → Prop
  | head {a l} (holds : p a) (last : ∀ b ∈ l, ¬p b) : LastOf p (a :: l) a
  | tail {a b l} (h : LastOf p l a) : LastOf p (b :: l) a

variable {α β : Type} {p q : α → Prop} {l l' : List α} {a b : α}

namespace LastOf

theorem mem (h : LastOf p l a) : a ∈ l := by
  induction h
  case head      => exact List.mem_cons_self
  case tail _ hm => exact List.mem_cons_of_mem _ hm

theorem holds (h : LastOf p l a) : p a := by
  induction h
  case head h _ => exact h
  case tail hi  => exact hi

theorem congr (hpq : ∀ a ∈ l, p a ↔ q a) (h : LastOf p l a) : LastOf q l a := by
  induction h
  case head hp hl => 
    refine .head ((hpq _ List.mem_cons_self).mp hp) fun b hb hq => ?_
    exact hl b hb ((hpq b (List.mem_cons_of_mem _ hb)).mpr hq)
  case tail hi    => exact .tail (hi fun a ha => hpq a (List.mem_cons_of_mem _ ha))

end LastOf

theorem not_lastOf_nil : ¬LastOf p [] a := 
  nofun

theorem lastOf_cons_iff : 
    LastOf p (b :: l) a ↔ LastOf p l a ∨ a = b ∧ p b ∧ ∀ c ∈ l, ¬p c := by
  constructor
  case mp  =>
    rintro (⟨hp, hl⟩ | h)
    · exact .inr ⟨rfl, hp, hl⟩
    · exact .inl h
  case mpr =>
    rintro (h | ⟨rfl, hp, hl⟩)
    · exact .tail h
    · exact .head hp hl

theorem exists_lastOf (h : ∃ a ∈ l, p a) : ∃ a, LastOf p l a := by
  induction l
  case nil         => simp at h
  case cons b l hi =>
    by_cases hl : ∃ a ∈ l, p a
    case pos => exact (hi hl).imp fun _ => .tail
    case neg =>
      have hl : ∀ a ∈ l, ¬p a := by simpa using hl
      have ⟨a, ha, hp⟩ := h
      cases List.mem_cons.mp ha
      case inl he => exact ⟨b, .head (he ▸ hp) hl⟩
      case inr ha => exact absurd hp (hl a ha)

-- An element that is the only one of its kind is also the last one.
theorem lastOf_iff_of_unique (hu : ∀ a ∈ l, ∀ b ∈ l, p a → p b → a = b) : 
    LastOf p l a ↔ a ∈ l ∧ p a := by
  constructor
  case mp  => exact fun h => ⟨h.mem, h.holds⟩
  case mpr =>
    intro ⟨ha, hp⟩
    have ⟨b, hb⟩ := exists_lastOf ⟨a, ha, hp⟩
    exact hu b hb.mem a ha hb.holds hp ▸ hb

theorem lastOf_append_iff : 
    LastOf p (l ++ l') a ↔ LastOf p l' a ∨ LastOf p l a ∧ ∀ b ∈ l', ¬p b := by
  induction l
  case nil          => simp [not_lastOf_nil]
  case cons c l hi  =>
    rw [List.cons_append, lastOf_cons_iff, lastOf_cons_iff, hi]
    simp only [List.mem_append, or_imp, forall_and]
    tauto

theorem lastOf_map_iff {f : α → β} {p : β → Prop} {b : β} : 
    LastOf p (l.map f) b ↔ ∃ a, LastOf (fun a => p (f a)) l a ∧ f a = b := by
  induction l
  case nil         => simp [not_lastOf_nil]
  case cons c l hi => 
    simp only [List.map_cons, lastOf_cons_iff, hi, List.forall_mem_map]
    constructor
    case mp  =>
      rintro (⟨a, ha, rfl⟩ | ⟨rfl, hp, hl⟩)
      · exact ⟨a, .inl ha, rfl⟩
      · exact ⟨c, .inr ⟨rfl, hp, hl⟩, rfl⟩
    case mpr =>
      rintro ⟨a, ha | ⟨rfl, hp, hl⟩, rfl⟩
      · exact .inl ⟨a, ha, rfl⟩
      · exact .inr ⟨rfl, hp, hl⟩

-- Of several lists in a row, the last one counts that holds such an element.
theorem lastOf_flatMap_iff {f : α → List β} {p : β → Prop} {b : β} : 
    LastOf p (l.flatMap f) b ↔ ∃ a, LastOf (fun a => ∃ b ∈ f a, p b) l a ∧ LastOf p (f a) b := by
  induction l
  case nil         => simp [not_lastOf_nil]
  case cons c l hi => 
    simp only [List.flatMap_cons, lastOf_append_iff, lastOf_cons_iff, hi]
    constructor
    case mp  =>
      rintro (⟨a, ha, hb⟩ | ⟨hb, hl⟩)
      · exact ⟨a, .inl ha, hb⟩
      · refine ⟨c, .inr ⟨rfl, ⟨b, hb.mem, hb.holds⟩, ?_⟩, hb⟩
        rintro a ha ⟨d, hd, hp⟩
        exact hl d (List.mem_flatMap.mpr ⟨a, ha, hd⟩) hp
    case mpr =>
      rintro ⟨a, ha | ⟨rfl, _, hl⟩, hb⟩
      · exact .inl ⟨a, ha, hb⟩
      · refine .inr ⟨hb, fun d hd hp => ?_⟩
        have ⟨e, he, hd⟩ := List.mem_flatMap.mp hd
        exact hl e he ⟨d, hd, hp⟩

-- In a list in ascending order, the last one is the greatest one.
theorem lastOf_iff_of_pairwise {r : α → α → Prop} (hl : l.Pairwise r) (hr : ∀ a, r a a) 
    (hs : ∀ a b, r a b → r b a → a = b) : 
    LastOf p l a ↔ a ∈ l ∧ p a ∧ ∀ b ∈ l, p b → r b a := by
  induction l
  case nil         => simp [not_lastOf_nil]
  case cons c l hi =>
    have ⟨hc, hl⟩ := List.pairwise_cons.mp hl
    rw [lastOf_cons_iff, hi hl]
    constructor
    case mp  =>
      rintro (⟨ha, hp, hg⟩ | ⟨rfl, hp, hn⟩)
      · exact ⟨List.mem_cons_of_mem _ ha, hp, List.forall_mem_cons.mpr ⟨fun _ => hc a ha, hg⟩⟩
      · refine ⟨List.mem_cons_self, hp, List.forall_mem_cons.mpr ⟨fun _ => hr a, ?_⟩⟩
        exact fun b hb hpb => absurd hpb (hn b hb)
    case mpr =>
      rintro ⟨ha, hp, hg⟩
      have ⟨hgc, hgl⟩ := List.forall_mem_cons.mp hg
      cases List.mem_cons.mp ha
      case inr ha => exact .inl ⟨ha, hp, hgl⟩
      case inl he =>
        subst he
        by_cases hn : ∃ b ∈ l, p b
        case neg => exact .inr ⟨rfl, hp, by simpa using hn⟩
        case pos =>
          have ⟨b, hb, hpb⟩ := hn
          have he := hs a b (hc b hb) (hgl b hb hpb)
          exact .inl ⟨he ▸ hb, hp, hgl⟩

end Rollout
