import QueryEngine.Proofs.Physical.Narrows
import QueryEngine.Proofs.Pushdown.Chain
import QueryEngine.Proofs.Pushdown.Keys
import QueryEngine.Proofs.Pushdown.Split
import QueryEngine.Proofs.Typing.Tables

namespace QueryEngine

namespace Document

/-- A predicate on the listing of keys, somewhere in a plan. -/
inductive KeyPredicate : Plan → Expr → Prop
  | here (args : List (TableArg Plan)) (s : Option Schema) (e : Expr) (s' : Option Schema) :
      KeyPredicate (.select (.tableFunction keysFunction args s) (some e) s') e
  | inside {p c : Plan} {e : Expr} (hc : c ∈ p.children) (h : KeyPredicate c e) : KeyPredicate p e

end Document

namespace Link

open Typing Physical Document

section

variable (functions : FunctionRegistry)

def schemaOver (s : Schema) : Link → Except Error Schema
  | select e _ => do
    checkPredicate functions s e
    return s
  | orderBy ks _ => do
    checkAll functions s (ks.map fun k => (sortKey k).1)
    return s
  | aliased n _ => .ok (s.qualified n)

def schemaOverAll (s : Schema) : List Link → Except Error Schema
  | [] => .ok s
  | l :: ls => do schemaOverAll (← l.schemaOver functions s) ls

def planOver (s : Schema) (input : Physical) : Link → Except Error Physical
  | select e _ => do return .filter input (← planPredicate functions s e)
  | orderBy ks _ => do return .sort input (← sortKeys functions s ks)
  | aliased .. => .ok input

def planOverAll (s : Schema) (input : Physical) : List Link → Except Error Physical
  | [] => .ok input
  | l :: ls => do
    let s' ← l.schemaOver functions s
    planOverAll s' (← l.planOver functions s input) ls

end

variable {functions : FunctionRegistry} {s s' : Schema} {l : Link} {links : List Link}

@[simp] theorem schemaOverAll_withTables (tables : Assoc TableFunction) (s : Schema)
    (links : List Link) : schemaOverAll { functions with tables } s links =
      schemaOverAll functions s links := by
  induction links generalizing s with
  | nil => rfl
  | cons l links ih => cases l <;> simp [schemaOverAll, schemaOver, ih]

@[simp] theorem planOverAll_withTables (tables : Assoc TableFunction) (s : Schema)
    (input : Physical) (links : List Link) :
    planOverAll { functions with tables } s input links =
      planOverAll functions s input links := by
  induction links generalizing s input with
  | nil => rfl
  | cons l links ih => cases l <;> simp [planOverAll, schemaOver, planOver, ih]

theorem schemaOverAll_append (links links' : List Link) (s : Schema) :
    schemaOverAll functions s (links ++ links') =
      schemaOverAll functions s links >>= fun s' => schemaOverAll functions s' links' := by
  induction links generalizing s with
  | nil => rfl
  | cons l links ih => cases h : l.schemaOver functions s <;> simp [schemaOverAll, h, ih]

theorem planOverAll_append (links' : List Link) (input : Physical)
    (h : schemaOverAll functions s links = .ok s') :
    planOverAll functions s input (links ++ links') =
      planOverAll functions s input links >>= fun p => planOverAll functions s' p links' := by
  induction links generalizing s input with
  | nil =>
      cases h
      rfl
  | cons l links ih =>
      obtain ⟨s₁, hs₁, h⟩ := bind_eq_ok.1 h
      cases hp : l.planOver functions s input <;> simp [planOverAll, hs₁, hp, ih _ h]

/-- What is known of an annotated chain on an annotated plan. -/
structure Above (functions : FunctionRegistry) (links : List Link) (s : Schema) (p : Plan)
    (s' : Schema) (q : Plan) : Prop where
  schema : q.outputSchema = .ok s'
  compile : ∀ relation config P, Physical.compile relation functions config q = .ok P ↔
    ∃ input, Physical.compile relation functions config p = .ok input ∧
      planOverAll functions s input links = .ok P
  keyPredicate : ∀ e, KeyPredicate p e → KeyPredicate q e

theorem compile_wrap {relation : String → Except Error Relation} {config : Config} {p : Plan}
    (hs : p.outputSchema = .ok s) {P : Physical} :
    compile relation functions config (l.wrap p) = .ok P ↔
      ∃ input, compile relation functions config p = .ok input ∧
        l.planOver functions s input = .ok P := by
  rcases l with ⟨_ | e, own⟩ | ⟨ks, own⟩ | ⟨name, own⟩
  · simp [wrap, compile, planOver, planPredicate, bind_eq_ok]
  · cases he : Scalar.plan s functions e <;>
      simp [wrap, compile, planOver, planPredicate, hs, he, bind_eq_ok]
  · cases hks : sortKeys functions s ks <;> simp [wrap, compile, planOver, hs, hks, bind_eq_ok]
  · simp [wrap, compile, planOver]

theorem annotateNode_wrap {relation : String → Except Error Schema} {p : Plan}
    (hs : p.outputSchema = .ok s) :
    annotateNode functions relation (l.wrap p) =
      (l.schemaOver functions s).map fun s' => (l.wrap p).withSchema s' := by
  rcases l with ⟨e, own⟩ | ⟨ks, own⟩ | ⟨name, own⟩
  · cases he : checkPredicate functions s e <;>
      simp [wrap, annotateNode, resolveNode, nodeSchema, bindAggregates, schemaOver, hs, he,
        Except.map]
  · cases hks : checkAll functions s (ks.map fun k => (sortKey k).1) <;>
      simp [wrap, annotateNode, resolveNode, nodeSchema, bindAggregates, schemaOver, hs, hks,
        Except.map]
  · simp [wrap, annotateNode, resolveNode, nodeSchema, bindAggregates, schemaOver, hs, Except.map]

theorem outputSchema_withSchema_wrap (p : Plan) :
    ((l.wrap p).withSchema s').outputSchema = .ok s' := by
  cases l <;> rfl

theorem above_withSchema {p : Plan} (hs : p.outputSchema = .ok s)
    (h : l.schemaOver functions s = .ok s') :
    Above functions [l] s p s' ((l.wrap p).withSchema s') where
  schema := outputSchema_withSchema_wrap p
  compile relation config P := by
    have hl : ∃ l' : Link, (l.wrap p).withSchema s' = l'.wrap p ∧
        ∀ input, l'.planOver functions s input = l.planOver functions s input := by
      rcases l with ⟨e, own⟩ | ⟨ks, own⟩ | ⟨name, own⟩
      · exact ⟨.select e (some s'), rfl, fun _ => rfl⟩
      · exact ⟨.orderBy ks (some s'), rfl, fun _ => rfl⟩
      · exact ⟨.aliased name (some s'), rfl, fun _ => rfl⟩
    obtain ⟨l', hwrap, hplan⟩ := hl
    simp [hwrap, compile_wrap hs, hplan, planOverAll, h]
  keyPredicate e he := by
    refine .inside ?_ he
    rw [children_withSchema, children_wrap]
    exact List.mem_singleton_self _

theorem Above.append {links' : List Link} {s₁ : Schema} {p p₁ q : Plan}
    (h : Above functions links s p s₁ p₁) (h' : Above functions links' s₁ p₁ s' q)
    (hs : schemaOverAll functions s links = .ok s₁) :
    Above functions (links ++ links') s p s' q where
  schema := h'.schema
  compile relation config P := by
    simp only [h'.compile, h.compile, planOverAll_append _ _ hs, bind_eq_ok]
    constructor
    · rintro ⟨input₁, ⟨input, hinput, hlinks⟩, hlinks'⟩
      exact ⟨input, hinput, input₁, hlinks, hlinks'⟩
    · rintro ⟨input, hinput, input₁, hlinks, hlinks'⟩
      exact ⟨input₁, ⟨input, hinput, hlinks⟩, hlinks'⟩
  keyPredicate e he := h'.keyPredicate e (h.keyPredicate e he)

theorem annotate_wrap_eq_ok {relation : String → Except Error Schema} {p p' : Plan}
    (hp : annotate functions relation p = .ok p') (hs : p'.outputSchema = .ok s) :
    annotate functions relation (l.wrap p) =
      (l.schemaOver functions s).map fun s' => (l.wrap p').withSchema s' := by
  rw [annotate_wrap, hp, ok_bind, annotateNode_wrap hs]

theorem exists_annotate_wrapAll {relation : String → Except Error Schema} {p p' : Plan}
    (hp : annotate functions relation p = .ok p') (hs : p'.outputSchema = .ok s)
    (h : schemaOverAll functions s links = .ok s') :
    ∃ q, annotate functions relation (wrapAll links p) = .ok q ∧ Above functions links s p' s' q := by
  induction links generalizing p p' s with
  | nil =>
      cases h
      exact ⟨p', hp, hs, by simp [planOverAll], fun _ => id⟩
  | cons l links ih =>
      obtain ⟨s₁, hs₁, h⟩ := bind_eq_ok.1 h
      have hwrap := annotate_wrap_eq_ok (l := l) hp hs
      rw [hs₁] at hwrap
      obtain ⟨q, hq, habove⟩ := ih hwrap (outputSchema_withSchema_wrap p') h
      exact ⟨q, hq, (above_withSchema hs hs₁).append habove (by simp [schemaOverAll, hs₁])⟩

theorem exists_annotate_of_wrapAll {relation : String → Except Error Schema} {p q : Plan}
    (h : annotate functions relation (wrapAll links p) = .ok q) :
    ∃ p', annotate functions relation p = .ok p' := by
  induction links generalizing p with
  | nil => exact ⟨q, h⟩
  | cons l links ih =>
      obtain ⟨p₁, hp₁⟩ := ih h
      rw [annotate_wrap] at hp₁
      obtain ⟨p', hp', -⟩ := bind_eq_ok.1 hp₁
      exact ⟨p', hp'⟩

theorem schemaOverAll_of_annotate {relation : String → Except Error Schema} {p p' q : Plan}
    (hp : annotate functions relation p = .ok p') (hs : p'.outputSchema = .ok s)
    (h : annotate functions relation (wrapAll links p) = .ok q) :
    ∃ s', schemaOverAll functions s links = .ok s' := by
  induction links generalizing p p' s with
  | nil => exact ⟨s, rfl⟩
  | cons l links ih =>
      have hwrap := annotate_wrap_eq_ok (l := l) hp hs
      cases hs₁ : l.schemaOver functions s with
      | error e =>
          rw [wrapAll_cons] at h
          obtain ⟨p₁, hp₁⟩ := exists_annotate_of_wrapAll h
          rw [hwrap, hs₁] at hp₁
          cases hp₁
      | ok s₁ =>
          rw [hs₁] at hwrap
          obtain ⟨s', hs'⟩ := ih hwrap (outputSchema_withSchema_wrap p') h
          exact ⟨s', by simpa [schemaOverAll, hs₁] using hs'⟩

variable {k : KeyFields}

theorem split_schemaOver (hk : k.Fits s) (h : l.schemaOver functions s = .ok s') :
    (l.keys k).Fits s' ∧ schemaOverAll functions s (l.split k).1.toList = .ok s' ∧
      (functions.IgnoresOwners →
        ∀ e ∈ (l.split k).2, ∃ g, fieldOf keySchema functions e = .ok g) := by
  rcases l with ⟨_ | e, own⟩ | ⟨ks, own⟩ | ⟨name, own⟩
  · cases h
    exact ⟨hk, rfl, by simp [split]⟩
  · obtain ⟨⟨⟩, he, h⟩ := bind_eq_ok.1 h
    cases h
    obtain ⟨g, hg, -⟩ := bind_eq_ok.1 he
    obtain ⟨hrecord, hkey⟩ := k.checkPredicate_split hg
    have hneeds := (k.needsRecord_split e).1
    refine ⟨hk, ?_⟩
    simp only [split]
    rcases hsplit : k.split e with ⟨_ | record, _ | key⟩ <;> simp only [hsplit] at hrecord hkey hneeds
    · simp [schemaOverAll, schemaOver, he]
    · obtain ⟨g', hg', -⟩ := bind_eq_ok.1 hkey
      simpa [schemaOverAll] using fun hf => hk.fieldOf_strip hf (hneeds key rfl) hg'
    · simp [schemaOverAll, schemaOver, he]
    · obtain ⟨g', hg', -⟩ := bind_eq_ok.1 hkey
      simpa [schemaOverAll, schemaOver, hrecord] using
        fun hf => hk.fieldOf_strip hf (hneeds key rfl) hg'
  · obtain ⟨⟨⟩, hks, hs⟩ := bind_eq_ok.1 h
    cases hs
    exact ⟨hk, by simp [split, schemaOverAll, h], by simp [split]⟩
  · cases h
    exact ⟨hk.addQualifier name, rfl, by simp [split]⟩

/-- What stays of a node makes up for the key predicate that it gives away. -/
theorem split_planOver (hk : k.Fits s) (h : l.schemaOver functions s = .ok s') {input P : Physical}
    (hP : l.planOver functions s input = .ok P) : ∃ keys : List Scalar,
      (l.split k).2.toList.mapM (Scalar.plan keySchema functions) = .ok keys ∧
      ∀ input', ∃ Q, planOverAll functions s input' (l.split k).1.toList = .ok Q ∧
        ∀ ctx rest, Narrows ctx (keys ++ rest) input input' → Narrows ctx rest P Q := by
  rcases l with ⟨_ | e, own⟩ | ⟨ks, own⟩ | ⟨name, own⟩
  · cases hP
    exact ⟨[], rfl, fun input' => ⟨_, rfl, fun ctx rest hn => hn⟩⟩
  · obtain ⟨⟨⟩, he, h⟩ := bind_eq_ok.1 h
    cases h
    obtain ⟨_, hplan, hP⟩ := bind_eq_ok.1 hP
    cases hP
    obtain ⟨sc, hsc, hsome⟩ := bind_eq_ok.1 hplan
    cases hsome
    obtain ⟨g, hg, -⟩ := bind_eq_ok.1 he
    have hchecked := (k.checkPredicate_split hg).1
    have hneeds := (k.needsRecord_split e).1
    obtain ⟨record, key, hrecord, hkey, htests⟩ := k.exists_split_tests hsc
    simp only [split]
    -- without a key part the selection stays; with one, its record part does, if there is any
    rcases hsplit : k.split e with ⟨r, _ | e'⟩ <;>
      simp only [hsplit] at hrecord hkey hneeds hchecked
    · refine ⟨[], rfl, fun input' => ⟨.filter input' (some sc), ?_, fun ctx rest hn => ?_⟩⟩
      · simp [planOverAll, schemaOver, planOver, planPredicate, he, hsc]
      · exact hn.select fun row b hb => ⟨b, hb, by simp [Scalar.holdAll]⟩
    · obtain ⟨keyScalar, hkeyScalar, hsome⟩ := bind_eq_ok.1 hkey
      cases hsome
      refine ⟨[keyScalar], by simp [hk.plan_strip (hneeds e' rfl) hkeyScalar], fun input' => ?_⟩
      have hselect (ctx : Context) (rest : List Scalar)
          (hn : Narrows ctx ([keyScalar] ++ rest) input input') :
          Narrows ctx rest (.filter input (some sc)) (.filter input' record) := by
        refine hn.select fun row b hb => ?_
        obtain ⟨x, y, hx, hy, hxy⟩ := htests ctx row b hb
        have hy : keyScalar.passes ctx row = .ok y := hy
        exact ⟨x, hx, by simp [Scalar.holdAll, Rows.holds, hy, hxy]⟩
      cases r with
      | none =>
          cases hrecord
          exact ⟨input', rfl, hselect⟩
      | some e'' =>
          refine ⟨.filter input' record, ?_, hselect⟩
          simp [planOverAll, schemaOver, planOver, hchecked, hrecord]
  · obtain ⟨sort, hsort, hP⟩ := bind_eq_ok.1 hP
    cases hP
    refine ⟨[], rfl, fun input' => ⟨.sort input' sort, ?_, fun ctx rest hn => hn.sort sort⟩⟩
    simp [split, planOverAll, h, planOver, hsort]
  · cases hP
    exact ⟨[], rfl, fun input' => ⟨_, rfl, fun ctx rest hn => hn⟩⟩

theorem splitAll_schemaOverAll (hk : k.Fits s) (h : schemaOverAll functions s links = .ok s') :
    schemaOverAll functions s (splitAll k links).1 = .ok s' ∧ (functions.IgnoresOwners →
      ∀ e ∈ (splitAll k links).2, ∃ g, fieldOf keySchema functions e = .ok g) := by
  induction links generalizing k s with
  | nil => exact ⟨h, by simp [splitAll]⟩
  | cons l links ih =>
      obtain ⟨s₁, hs₁, h⟩ := bind_eq_ok.1 h
      obtain ⟨hfits, hkept, htaken⟩ := split_schemaOver hk hs₁
      obtain ⟨hkept', htaken'⟩ := ih hfits h
      refine ⟨by rw [splitAll, schemaOverAll_append, hkept, ok_bind, hkept'], fun hf e he => ?_⟩
      rcases List.mem_append.1 he with he | he
      · exact htaken hf e (by simpa using he)
      · exact htaken' hf e he

theorem splitAll_planOverAll (hk : k.Fits s) (h : schemaOverAll functions s links = .ok s')
    {input P : Physical} (hP : planOverAll functions s input links = .ok P) : ∃ keys : List Scalar,
      (splitAll k links).2.mapM (Scalar.plan keySchema functions) = .ok keys ∧
      ∀ input', ∃ Q, planOverAll functions s input' (splitAll k links).1 = .ok Q ∧
        ∀ ctx, Narrows ctx keys input input' → Refines ctx P Q := by
  induction links generalizing k s input with
  | nil =>
      cases hP
      exact ⟨[], rfl, fun input' => ⟨input', rfl, fun ctx hn => hn.refines⟩⟩
  | cons l links ih =>
      obtain ⟨s₁, hs₁, h⟩ := bind_eq_ok.1 h
      rw [planOverAll, hs₁, ok_bind] at hP
      obtain ⟨P₁, hP₁, hP⟩ := bind_eq_ok.1 hP
      obtain ⟨hfits, hkept, -⟩ := split_schemaOver hk hs₁
      obtain ⟨keys, hkeys, hstep⟩ := split_planOver hk hs₁ hP₁
      obtain ⟨keys', hkeys', hrest⟩ := ih hfits h hP
      refine ⟨keys ++ keys', by simp [splitAll, List.mapM_append, hkeys, hkeys'], fun input' => ?_⟩
      obtain ⟨Q₁, hQ₁, hnarrows⟩ := hstep input'
      obtain ⟨Q, hQ, hrefines⟩ := hrest Q₁
      refine ⟨Q, ?_, fun ctx hn => hrefines ctx (hnarrows ctx keys' hn)⟩
      rw [splitAll, planOverAll_append _ _ hkept, hQ₁, ok_bind, hQ]

end Link

end QueryEngine
