import QueryEngine.Expr.Basic

namespace QueryEngine

namespace Expr

theorem sizeOf_lt_of_mem_branchChildren {branches : List (Expr × Expr)} {c : Expr}
    (h : c ∈ branchChildren branches) : sizeOf c < sizeOf branches := by
  induction branches with
  | nil => cases h
  | cons b rest ih =>
      obtain ⟨cond, result⟩ := b
      simp only [branchChildren, List.mem_cons] at h
      simp only [List.cons.sizeOf_spec, Prod.mk.sizeOf_spec]
      rcases h with rfl | rfl | h
      · omega
      · omega
      · have := ih h
        omega

theorem sizeOf_lt_of_mem_children {e c : Expr} (h : c ∈ e.children) : sizeOf c < sizeOf e := by
  cases e with
  | var | const | param | star => cases h
  | unary _ e | item e _ | rename _ e | cast e _ =>
      obtain rfl := List.mem_singleton.1 h
      simp only [unary.sizeOf_spec, item.sizeOf_spec, rename.sizeOf_spec, cast.sizeOf_spec]
      omega
  | binary op l r =>
      simp only [children, List.mem_cons, List.not_mem_nil, or_false] at h
      rcases h with rfl | rfl <;> simp only [binary.sizeOf_spec] <;> omega
  | between e low high =>
      simp only [children, List.mem_cons, List.not_mem_nil, or_false] at h
      rcases h with rfl | rfl | rfl <;> simp only [between.sizeOf_spec] <;> omega
  | tuple es | call _ es =>
      have : sizeOf c < sizeOf es := List.sizeOf_lt_of_mem h
      simp only [tuple.sizeOf_spec, call.sizeOf_spec]
      omega
  | caseWhen branches default =>
      simp only [caseWhen.sizeOf_spec]
      rcases List.mem_append.1 h with h | h
      · have := sizeOf_lt_of_mem_branchChildren h
        omega
      · cases default with
        | none => cases h
        | some e =>
            obtain rfl := List.mem_singleton.1 h
            simp only [Option.some.sizeOf_spec]
            omega

theorem inductionOnChildren {motive : Expr → Prop}
    (h : ∀ e : Expr, (∀ c ∈ e.children, motive c) → motive e) (e : Expr) : motive e :=
  h e fun c _ => inductionOnChildren h c
termination_by sizeOf e
decreasing_by exact sizeOf_lt_of_mem_children ‹_›

variable {f : String → String} {p q : Expr → Bool}

theorem anyList_eq (p : Expr → Bool) (es : List Expr) : anyList p es = es.any (any p) := by
  induction es with
  | nil => rfl
  | cons e es ih => rw [anyList, ih, List.any_cons]

theorem anyBranches_eq (p : Expr → Bool) (branches : List (Expr × Expr)) :
    anyBranches p branches = (branchChildren branches).any (any p) := by
  induction branches with
  | nil => rfl
  | cons b rest ih => rw [anyBranches, branchChildren, ih, List.any_cons, List.any_cons, Bool.or_assoc]

theorem any_eq (p : Expr → Bool) (e : Expr) : e.any p = (p e || e.children.any (any p)) := by
  rw [any.eq_def]
  cases e with
  | tuple es | call _ es => simp only [children, anyList_eq]
  | caseWhen branches default =>
      cases default <;> simp [children, anyBranches_eq, anyDefault]
  | _ => simp [children, Bool.or_assoc]

theorem any_eq_false {e : Expr} :
    e.any p = false ↔ p e = false ∧ ∀ c ∈ e.children, c.any p = false := by
  rw [any_eq]
  simp

theorem any_mono (h : ∀ x, p x = false → q x = false) {e : Expr} (he : e.any p = false) :
    e.any q = false := by
  induction e using inductionOnChildren with
  | h e ih =>
      obtain ⟨hnode, hchildren⟩ := any_eq_false.1 he
      exact any_eq_false.2 ⟨h e hnode, fun c hc => ih c hc (hchildren c hc)⟩

theorem mapVarsList_eq (f : String → String) (es : List Expr) :
    mapVarsList f es = es.map (mapVars f) := by
  induction es with
  | nil => rfl
  | cons e es ih => rw [mapVarsList, ih, List.map_cons]

theorem branchChildren_mapVarsBranches (f : String → String) (branches : List (Expr × Expr)) :
    branchChildren (mapVarsBranches f branches) = (branchChildren branches).map (mapVars f) := by
  induction branches with
  | nil => rfl
  | cons b rest ih => simp [mapVarsBranches, branchChildren, ih]

theorem children_mapVars (f : String → String) (e : Expr) :
    (e.mapVars f).children = e.children.map (mapVars f) := by
  cases e with
  | tuple es | call _ es => simp only [mapVars, children, mapVarsList_eq]
  | caseWhen branches default =>
      cases default <;> simp [mapVars, children, branchChildren_mapVarsBranches, mapVarsDefault]
  | _ => rfl

theorem any_mapVars (h : ∀ x, p x = false → q (x.mapVars f) = false) {e : Expr}
    (he : e.any p = false) : (e.mapVars f).any q = false := by
  induction e using inductionOnChildren with
  | h e ih =>
      obtain ⟨hnode, hchildren⟩ := any_eq_false.1 he
      refine any_eq_false.2 ⟨h e hnode, ?_⟩
      rw [children_mapVars, List.forall_mem_map]
      exact fun c hc => ih c hc (hchildren c hc)

theorem mapVarsBranches_eq_self {branches : List (Expr × Expr)}
    (h : ∀ c ∈ branchChildren branches, c.mapVars f = c) : mapVarsBranches f branches = branches := by
  induction branches with
  | nil => rfl
  | cons b rest ih => simp_all [mapVarsBranches, branchChildren]

theorem mapVars_eq_self (h : ∀ path, p (.var path) = false → f path = path) {e : Expr}
    (he : e.any p = false) : e.mapVars f = e := by
  induction e using inductionOnChildren with
  | h e ih =>
      obtain ⟨hnode, hchildren⟩ := any_eq_false.1 he
      have hfixed (c : Expr) (hc : c ∈ e.children) : c.mapVars f = c := ih c hc (hchildren c hc)
      cases e with
      | var path => rw [mapVars, h path hnode]
      | tuple es | call _ es =>
          have hes : es.map (mapVars f) = es :=
            (List.map_congr_left (g := id) hfixed).trans (List.map_id es)
          rw [mapVars, mapVarsList_eq, hes]
      | caseWhen branches default =>
          have hbranches := mapVarsBranches_eq_self fun c hc => hfixed c (List.mem_append_left _ hc)
          cases default with
          | none => rw [mapVars, hbranches, mapVarsDefault]
          | some e => rw [mapVars, hbranches, mapVarsDefault, hfixed e (by simp [children])]
      | _ => simp_all [mapVars, children]

end Expr

end QueryEngine
