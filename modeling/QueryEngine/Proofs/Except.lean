import Mathlib.Data.List.Forall2

namespace QueryEngine

variable {ε α β : Type}

@[simp] theorem pure_eq (a : α) : (pure a : Except ε α) = .ok a := rfl

@[simp] theorem ok_bind (a : α) (f : α → Except ε β) : (Except.ok a >>= f) = f a := rfl

@[simp] theorem error_bind (e : ε) (f : α → Except ε β) : (Except.error e >>= f) = .error e := rfl

@[simp] theorem bind_ok (x : Except ε α) : (x >>= fun a => .ok a) = x := by
  cases x <;> rfl

theorem map_bind {γ : Type} (x : Except ε α) (f : α → β) (g : β → Except ε γ) :
    x.map f >>= g = x >>= fun a => g (f a) := by
  cases x <;> rfl

theorem bind_map {γ : Type} (x : Except ε α) (f : α → Except ε β) (g : β → γ) :
    (x >>= f).map g = x >>= fun a => (f a).map g := by
  cases x <;> rfl

theorem bind_eq_ok {x : Except ε α} {f : α → Except ε β} {b : β} :
    x >>= f = .ok b ↔ ∃ a, x = .ok a ∧ f a = .ok b := by
  cases x <;> simp

theorem map_eq_ok {x : Except ε α} {f : α → β} {b : β} :
    x.map f = .ok b ↔ ∃ a, x = .ok a ∧ f a = b := by
  cases x <;> simp [Except.map]

theorem mapM_eq_ok {f : α → Except ε β} {as : List α} {bs : List β} :
    as.mapM f = .ok bs ↔ List.Forall₂ (fun a b => f a = .ok b) as bs := by
  induction as generalizing bs with
  | nil => cases bs <;> simp
  | cons a as ih =>
      rw [List.mapM_cons, bind_eq_ok]
      constructor
      · rintro ⟨b, hb, h⟩
        obtain ⟨bs, hbs, h⟩ := bind_eq_ok.1 h
        cases h
        exact .cons hb (ih.1 hbs)
      · rintro (_ | ⟨hb, hbs⟩)
        exact ⟨_, hb, by simp [ih.2 hbs]⟩

theorem length_of_mapM {f : α → Except ε β} {as : List α} {bs : List β}
    (h : as.mapM f = .ok bs) : bs.length = as.length :=
  (mapM_eq_ok.1 h).length_eq.symm

theorem exists_of_mem_mapM {f : α → Except ε β} {as : List α} {bs : List β}
    (h : as.mapM f = .ok bs) {b : β} (hb : b ∈ bs) : ∃ a ∈ as, f a = .ok b := by
  have hall := mapM_eq_ok.1 h
  induction hall with
  | nil => cases hb
  | cons hab _ ih =>
      rcases List.mem_cons.1 hb with rfl | hb
      · exact ⟨_, List.mem_cons_self, hab⟩
      · obtain ⟨a, ha, hfa⟩ := ih (mapM_eq_ok.2 ‹_›) hb
        exact ⟨a, List.mem_cons_of_mem _ ha, hfa⟩

theorem exists_mapM_map {γ δ : Type} {R : β → δ → Prop} {f : α → Except ε β} {g : γ → Except ε δ}
    {h : α → γ} {as : List α} {bs : List β} (hbs : as.mapM f = .ok bs)
    (hR : ∀ a ∈ as, ∀ b, f a = .ok b → ∃ d, g (h a) = .ok d ∧ R b d) :
    ∃ ds, (as.map h).mapM g = .ok ds ∧ List.Forall₂ R bs ds := by
  have hall := mapM_eq_ok.1 hbs
  clear hbs
  induction hall with
  | nil => exact ⟨[], rfl, .nil⟩
  | cons hab _ ih =>
      obtain ⟨d, hd, hbd⟩ := hR _ List.mem_cons_self _ hab
      obtain ⟨ds, hds, hall⟩ := ih fun a ha => hR a (List.mem_cons_of_mem _ ha)
      exact ⟨d :: ds, by simp [hd, hds], .cons hbd hall⟩

theorem mapM_filter {f : α → Except ε β} {g : β → α} (hg : ∀ a b, f a = .ok b → g b = a)
    (p : α → Bool) {as : List α} {bs : List β} (h : as.mapM f = .ok bs) :
    (as.filter p).mapM f = .ok (bs.filter fun b => p (g b)) := by
  have hall := mapM_eq_ok.1 h
  rw [mapM_eq_ok]
  clear h
  induction hall with
  | nil => exact .nil
  | cons hab _ ih =>
      rw [List.filter_cons, List.filter_cons, hg _ _ hab]
      split
      · exact .cons hab ih
      · exact ih

theorem exists_mapM {f : α → Except ε β} {as : List α} (h : ∀ a ∈ as, ∃ b, f a = .ok b) :
    ∃ bs, as.mapM f = .ok bs := by
  induction as with
  | nil => exact ⟨[], rfl⟩
  | cons a as ih =>
      obtain ⟨b, hb⟩ := h a List.mem_cons_self
      obtain ⟨bs, hbs⟩ := ih fun a ha => h a (List.mem_cons_of_mem _ ha)
      exact ⟨b :: bs, by simp [hb, hbs]⟩

theorem mapM_congr {f g : α → Except ε β} {as : List α} (h : ∀ a ∈ as, f a = g a) :
    as.mapM f = as.mapM g := by
  induction as with
  | nil => rfl
  | cons a as ih =>
      rw [List.mapM_cons, List.mapM_cons, h a List.mem_cons_self,
        ih fun a ha => h a (List.mem_cons_of_mem _ ha)]

section

variable {σ : Type} {R : σ → σ → Prop} {f : σ → α → Except ε σ}

theorem exists_foldlM_of_related
    (hstep : ∀ a s s' t, R s s' → f s a = .ok t → ∃ t', f s' a = .ok t' ∧ R t t') {as : List α}
    {s s' t : σ} (hs : R s s') (h : as.foldlM f s = .ok t) :
    ∃ t', as.foldlM f s' = .ok t' ∧ R t t' := by
  induction as generalizing s s' with
  | nil =>
      cases h
      exact ⟨s', rfl, hs⟩
  | cons a as ih =>
      rw [List.foldlM_cons] at h
      obtain ⟨s₁, hs₁, h⟩ := bind_eq_ok.1 h
      obtain ⟨s₁', hs₁', hrel⟩ := hstep a s s' s₁ hs hs₁
      rw [List.foldlM_cons, hs₁', ok_bind]
      exact ih hrel h

theorem exists_foldlM_of_perm (hrefl : ∀ s, R s s) (htrans : ∀ s t u, R s t → R t u → R s u)
    (hstep : ∀ a s s' t, R s s' → f s a = .ok t → ∃ t', f s' a = .ok t' ∧ R t t')
    (hswap : ∀ a b s t, (f s a >>= fun s => f s b) = .ok t →
      ∃ t', (f s b >>= fun s => f s a) = .ok t' ∧ R t t')
    {as bs : List α} (hperm : as.Perm bs) {s t : σ} (h : as.foldlM f s = .ok t) :
    ∃ t', bs.foldlM f s = .ok t' ∧ R t t' := by
  induction hperm generalizing s t with
  | nil => exact ⟨t, h, hrefl t⟩
  | cons a _ ih =>
      rw [List.foldlM_cons] at h
      obtain ⟨s₁, hs₁, h⟩ := bind_eq_ok.1 h
      obtain ⟨t', ht', hrel⟩ := ih h
      exact ⟨t', by rw [List.foldlM_cons, hs₁, ok_bind, ht'], hrel⟩
  | swap a b as =>
      simp only [List.foldlM_cons] at h
      rw [← bind_assoc] at h
      obtain ⟨s₂, hs₂, h⟩ := bind_eq_ok.1 h
      obtain ⟨s₂', hs₂', hrel⟩ := hswap b a s s₂ hs₂
      -- the other order of the two steps leads to a related state, where the rest goes on
      obtain ⟨t', ht', hrel⟩ := exists_foldlM_of_related hstep hrel h
      refine ⟨t', ?_, hrel⟩
      simp only [List.foldlM_cons]
      rw [← bind_assoc, hs₂', ok_bind, ht']
  | trans _ _ ih₁ ih₂ =>
      obtain ⟨t₁, ht₁, hrel₁⟩ := ih₁ h
      obtain ⟨t₂, ht₂, hrel₂⟩ := ih₂ ht₁
      exact ⟨t₂, ht₂, htrans t t₁ t₂ hrel₁ hrel₂⟩

end

end QueryEngine
