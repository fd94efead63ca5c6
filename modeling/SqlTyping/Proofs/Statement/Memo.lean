import Mathlib.Data.Finset.Card
import SqlTyping.Proofs.Statement.Decision

/-!
# The memo of a compilation

Decisions are remembered by the spelling of the site. Sites that are spelled alike are the same
(`Site.render_injective`), so a site only ever finds its own decision in the memo, and the memo
changes nothing but the number of times a site is decided: compiling is deciding every site on its
own (`compileFrom_eq`). The memo is hit once for every site that has come before.
-/

namespace SqlTyping

/-- Well-formed sites with the same spelling are the same. -/
lemma Site.render_injective {s t : Site} (hs : s.WellFormed) (ht : t.WellFormed)
    (h : s.render = t.render) : s = t := by
  have hread := Site.read_render hs
  rw [h, Site.read_render ht] at hread
  cases hread
  rfl

/-! ## Deciding without a memo -/

/-- Decides sites from a position on, each on its own. -/
def decideFrom (env : Environment) (name : String) (position : Nat) :
    List Site → Except Abort (List Expression)
  | [] => .ok []
  | s :: rest => do
    let d ← (s.decide env).mapError (·.atExpression name position)
    let es ← decideFrom env name (position + 1) rest
    .ok (⟨s, d⟩ :: es)

/-- How many of the sites occurred before, among those seen or in front of them. -/
def repeats (seen : List Site) : List Site → Nat
  | [] => 0
  | s :: rest => if s ∈ seen then repeats seen rest + 1 else repeats (s :: seen) rest

section Decide

variable {env : Environment} {name : String} {position : Nat} {sites : List Site}

/-- Deciding succeeds with expressions that hold the sites and their decisions. -/
lemma decideFrom_eq_ok_iff {es : List Expression} :
    decideFrom env name position sites = .ok es ↔
      List.Forall₂ (fun s e => e.site = s ∧ s.decide env = .ok e.decision) sites es := by
  induction sites generalizing position es with
  | nil =>
    constructor
    · rintro ⟨⟩
      exact .nil
    · rintro ⟨⟩
      rfl
  | cons s sites ih =>
    constructor
    · intro h
      obtain ⟨d, hd, h⟩ := Except.bind_eq_ok_iff.mp h
      obtain ⟨es', hes, h⟩ := Except.bind_eq_ok_iff.mp h
      cases h
      exact .cons ⟨rfl, Except.mapError_eq_ok_iff.mp hd⟩ (ih.mp hes)
    · rintro (_ | ⟨⟨rfl, hd⟩, hes⟩)
      rw [decideFrom, hd]
      change (decideFrom env name (position + 1) sites >>= _) = _
      rw [ih.mpr hes]
      rfl

/-- Deciding fails at the first site that fails on its own. -/
lemma exists_of_decideFrom_eq_error {a : Abort}
    (h : decideFrom env name position sites = .error a) :
    ∃ i s a', sites[i]? = some s ∧ s.decide env = .error a' ∧
      (∀ t ∈ sites.take i, ∃ d, t.decide env = .ok d) ∧
      a = a'.atExpression name (position + i) := by
  induction sites generalizing position with
  | nil => cases h
  | cons s sites ih =>
    rw [decideFrom] at h
    cases hd : s.decide env with
    | error a' =>
      rw [hd] at h
      cases h
      exact ⟨0, s, a', rfl, hd, nofun, rfl⟩
    | ok d =>
      rw [hd] at h
      change (decideFrom env name (position + 1) sites >>= _) = _ at h
      cases hrest : decideFrom env name (position + 1) sites with
      | ok es =>
        rw [hrest] at h
        cases h
      | error a' =>
        rw [hrest] at h
        cases h
        obtain ⟨i, t, a', ht, hfail, hbefore, ha⟩ := ih hrest
        refine ⟨i + 1, t, a', ht, hfail, ?_, ?_⟩
        · rw [List.take_succ_cons, List.forall_mem_cons]
          exact ⟨⟨d, hd⟩, hbefore⟩
        · rw [ha, Nat.add_assoc, Nat.add_comm 1 i]

/-- Deciding depends on the decision for every site only. -/
lemma decideFrom_congr {env' : Environment} (h : ∀ s : Site, s.decide env = s.decide env') :
    decideFrom env name position sites = decideFrom env' name position sites := by
  induction sites generalizing position with
  | nil => rfl
  | cons s sites ih => rw [decideFrom, decideFrom, h s, ih]

/-- For values of an engine, the error at the first site that fails is a diagnostic. -/
lemma exists_diagnostic_of_decideFrom {a : Abort} (hvalues : Engine.Reachable env.values)
    (hkinds : ∀ s ∈ env.catalog.signatures, s.KindsAssigned)
    (hsites : ∀ s ∈ sites, s.WellFormed) (h : decideFrom env name position sites = .error a) :
    ∃ i s d, sites[i]? = some s ∧ s.decide env = .error (.error d) ∧
      (∀ t ∈ sites.take i, ∃ d, t.decide env = .ok d) ∧
      a = .error (expressionContext name (position + i) d) := by
  obtain ⟨i, s, a', hs, hfail, hbefore, rfl⟩ := exists_of_decideFrom_eq_error h
  cases a' with
  | error d => exact ⟨i, s, d, hs, hfail, hbefore, rfl⟩
  | crash c =>
    exact absurd hfail (Site.decide_ne_crash hvalues hkinds (hsites s (List.mem_of_getElem? hs)) c)

variable (env name position sites) in
/-- Deciding succeeds if every site can be decided on its own. -/
lemma exists_decideFrom_eq_ok_iff :
    (∃ es, decideFrom env name position sites = .ok es) ↔
      ∀ s ∈ sites, ∃ d, s.decide env = .ok d := by
  constructor
  · rintro ⟨es, hes⟩ s hs
    obtain ⟨i, hi, rfl⟩ := List.mem_iff_getElem.mp hs
    have hall := List.forall₂_iff_get.mp (decideFrom_eq_ok_iff.mp hes)
    exact ⟨_, (hall.2 i hi (hall.1 ▸ hi)).2⟩
  · intro hall
    cases h : decideFrom env name position sites with
    | ok es => exact ⟨es, rfl⟩
    | error a =>
      obtain ⟨i, s, a', hs, hfail, -⟩ := exists_of_decideFrom_eq_error h
      obtain ⟨d, hd⟩ := hall s (List.mem_of_getElem? hs)
      rw [hfail] at hd
      cases hd

end Decide

/-- Repeated sites and different sites together are all sites. -/
lemma repeats_add_card (seen sites : List Site) :
    repeats seen sites + (sites.toFinset \ seen.toFinset).card = sites.length := by
  induction sites generalizing seen with
  | nil => simp [repeats]
  | cons s sites ih =>
    rw [repeats]
    split
    · next hs =>
      have hsame : (s :: sites).toFinset \ seen.toFinset = sites.toFinset \ seen.toFinset := by
        ext t
        simp only [Finset.mem_sdiff, List.mem_toFinset, List.mem_cons]
        grind
      rw [hsame, List.length_cons, ← ih seen]
      omega
    · next hs =>
      have hmore : (s :: sites).toFinset \ seen.toFinset =
          insert s (sites.toFinset \ (s :: seen).toFinset) := by
        ext t
        simp only [Finset.mem_sdiff, Finset.mem_insert, List.mem_toFinset, List.mem_cons]
        grind
      have hnew : s ∉ sites.toFinset \ (s :: seen).toFinset := by simp
      rw [hmore, Finset.card_insert_of_notMem hnew, List.length_cons, ← ih (s :: seen)]
      omega

/-! ## Deciding with a memo -/

/-- A memo that holds the decisions of the sites seen, and of no others. -/
structure Memo.Holds (env : Environment) (seen : List Site) (memo : Memo) : Prop where
  hit : ∀ s ∈ seen, ∃ d, s.decide env = .ok d ∧ memo.lookup s.render = some ⟨s, d⟩
  miss : ∀ s, s.WellFormed → s ∉ seen → memo.lookup s.render = none

/-- Remembering the decision of a new site. -/
lemma Memo.Holds.cons {env : Environment} {seen : List Site} {memo : Memo}
    (h : Memo.Holds env seen memo) {s : Site} (hs : s.WellFormed)
    (hseen : ∀ t ∈ seen, t.WellFormed) (hnew : s ∉ seen) {d : Decision}
    (hd : s.decide env = .ok d) : Memo.Holds env (s :: seen) ((s.render, ⟨s, d⟩) :: memo) where
  hit := by
    rw [List.forall_mem_cons]
    refine ⟨⟨d, hd, List.lookup_cons_self⟩, fun t ht => ?_⟩
    obtain ⟨d', hd', hlookup⟩ := h.hit t ht
    refine ⟨d', hd', ?_⟩
    have hne : (t.render == s.render) = false := by
      rw [beq_eq_false_iff_ne]
      rintro hrender
      rw [Site.render_injective (hseen t ht) hs hrender] at ht
      exact hnew ht
    rw [List.lookup_cons, hne, hlookup]
  miss := by
    intro t ht hnot
    rw [List.mem_cons, not_or] at hnot
    have hne : (t.render == s.render) = false := by
      rw [beq_eq_false_iff_ne]
      exact fun hrender => hnot.1 (Site.render_injective ht hs hrender)
    rw [List.lookup_cons, hne, h.miss t ht hnot.2]

/-- Compiling with a memo is deciding every site on its own. -/
lemma compileFrom_eq {env : Environment} (name : String) {seen : List Site} {memo : Memo}
    (hmemo : Memo.Holds env seen memo) (hseen : ∀ s ∈ seen, s.WellFormed) {sites : List Site}
    (hsites : ∀ s ∈ sites, s.WellFormed) (position : Nat) :
    compileFrom env name position memo sites =
      (decideFrom env name position sites).map fun es => (es, repeats seen sites) := by
  induction sites generalizing seen memo position with
  | nil => rfl
  | cons s sites ih =>
    rw [List.forall_mem_cons] at hsites
    rw [compileFrom, decideFrom, repeats]
    by_cases hs : s ∈ seen
    · obtain ⟨d, hd, hlookup⟩ := hmemo.hit s hs
      rw [hlookup, if_pos hs, hd]
      simp only [ih hmemo hseen hsites.2 (position + 1)]
      cases decideFrom env name (position + 1) sites <;> rfl
    · rw [hmemo.miss s hsites.1 hs, if_neg hs]
      cases hd : s.decide env with
      | error a => rfl
      | ok d =>
        have hmemo' := hmemo.cons hsites.1 hseen hs hd
        have hseen' : ∀ t ∈ s :: seen, t.WellFormed :=
          List.forall_mem_cons.mpr ⟨hsites.1, hseen⟩
        simp only [Except.mapError, Except.ok_bind, ih hmemo' hseen' hsites.2 (position + 1)]
        cases decideFrom env name (position + 1) sites <;> rfl

lemma Statement.compile_eq {env : Environment} {stmt : Statement}
    (hsites : ∀ s ∈ stmt.sites, s.WellFormed) :
    stmt.compile env = (decideFrom env stmt.name 0 stmt.sites).map fun es =>
      ⟨stmt.name, env.catalog.version, es, repeats [] stmt.sites⟩ := by
  have hmemo : Memo.Holds env [] [] := ⟨nofun, fun _ _ _ => rfl⟩
  rw [Statement.compile, compileFrom_eq stmt.name hmemo nofun hsites 0]
  cases decideFrom env stmt.name 0 stmt.sites <;> rfl

/-- The memo is transparent. A statement compiles if each of its sites can be decided on its own,
and then every expression holds its site and the decision for that site alone; the memo is hit as
often as sites are repeated. A statement that does not compile fails at the first site that cannot
be decided on its own, with the error for that site. -/
theorem compile_eq_decide_each {name text : String} {stmt : Statement} {env : Environment}
    (hstmt : Statement.parse name text = .ok stmt)
    (hkinds : ∀ s ∈ env.catalog.signatures, s.KindsAssigned)
    (hvalues : Engine.Reachable env.values) :
    ((∃ c, stmt.compile env = .ok c) ↔ ∀ s ∈ stmt.sites, ∃ d, s.decide env = .ok d) ∧
      (∀ c, stmt.compile env = .ok c → c.name = name ∧ c.version = env.catalog.version ∧
        List.Forall₂ (fun s e => e.site = s ∧ s.decide env = .ok e.decision)
          stmt.sites c.expressions ∧
        c.memoHits + stmt.sites.toFinset.card = stmt.sites.length) ∧
      ∀ a, stmt.compile env = .error a → ∃ i s d, stmt.sites[i]? = some s ∧
        s.decide env = .error (.error d) ∧ (∀ t ∈ stmt.sites.take i, ∃ d, t.decide env = .ok d) ∧
        a = .error (expressionContext name i d) := by
  obtain ⟨rfl, hparsed⟩ := Statement.of_parse hstmt
  have hsites : ∀ s ∈ stmt.sites, s.WellFormed := fun s hs => (hparsed s hs).1
  rw [Statement.compile_eq hsites]
  refine ⟨?_, ?_, ?_⟩
  · rw [← exists_decideFrom_eq_ok_iff env stmt.name 0 stmt.sites]
    constructor
    · rintro ⟨c, hc⟩
      obtain ⟨es, hes, -⟩ := Except.map_eq_ok_iff.mp hc
      exact ⟨es, hes⟩
    · rintro ⟨es, hes⟩
      rw [hes]
      exact ⟨_, rfl⟩
  · intro c hc
    obtain ⟨es, hes, rfl⟩ := Except.map_eq_ok_iff.mp hc
    refine ⟨rfl, rfl, decideFrom_eq_ok_iff.mp hes, ?_⟩
    simpa using repeats_add_card [] stmt.sites
  · intro a ha
    cases hdecide : decideFrom env stmt.name 0 stmt.sites with
    | ok es =>
      rw [hdecide] at ha
      cases ha
    | error b =>
      rw [hdecide] at ha
      cases ha
      have hfirst := exists_diagnostic_of_decideFrom hvalues hkinds hsites hdecide
      simpa only [Nat.zero_add] using hfirst

/-- Two sites that differ in the case of a constant, one of them twice. -/
theorem compile_eq_decide_each_repeated :
    let f : Signature := ⟨"F", "f", [⟨"x", ⟨.varchar, 0, 0, 20, true⟩, .natural⟩],
      some ⟨⟨.integer, 10, 0, 0, true⟩, .nullable⟩⟩
    let env : Environment := ⟨Engine.defaults, ⟨[⟨"F", 1, 0, f⟩], 1, 1⟩⟩
    let a : Site := .call "f" [.constant "it's" ⟨.char, 0, 0, 4, true⟩] ⟨true, none, false⟩ none
    let b : Site := .call "f" [.constant "It's" ⟨.char, 0, 0, 4, true⟩] ⟨true, none, false⟩ none
    let text := "call f('it''s'::char(4)) expr\nCALL f('It''s'::char(4)) EXPR\n" ++
      "call  f( 'it''s'::CHAR(4) ) expr"
    Statement.parse "q" text = .ok ⟨"q", [a, b, a]⟩ ∧
      (∀ s ∈ env.catalog.signatures, s.KindsAssigned) ∧ Engine.Reachable env.values ∧
      ∃ c, Statement.compile env ⟨"q", [a, b, a]⟩ = .ok c ∧
        c.expressions.map (·.site) = [a, b, a] ∧ c.memoHits = 1 := by
  intro f env a b text
  have hstmt : Statement.parse "q" text = .ok ⟨"q", [a, b, a]⟩ :=
    Except.eq_ok_of_toOption (by decide +kernel)
  have hkinds : ∀ s ∈ env.catalog.signatures, s.KindsAssigned := by decide
  have hvalues : Engine.Reachable env.values := .defaults
  have hdecide : ∀ s ∈ [a, b, a], ∃ d, s.decide env = .ok d := by
    intro s hs
    refine ⟨.call f, Except.eq_ok_of_toOption ?_⟩
    revert s
    decide +kernel
  obtain ⟨c, hc⟩ := (compile_eq_decide_each hstmt hkinds hvalues).1.mpr hdecide
  obtain ⟨-, -, hall, hhits⟩ := (compile_eq_decide_each hstmt hkinds hvalues).2.1 c hc
  have hsites : c.expressions.map (·.site) = [a, b, a] := by
    have hsame : List.Forall₂ (· = ·) [a, b, a] (c.expressions.map (·.site)) :=
      List.forall₂_map_right_iff.mpr (hall.imp fun _ _ h => h.1.symm)
    rw [List.forall₂_eq_eq_eq] at hsame
    exact hsame.symm
  have hcard : ([a, b, a] : List Site).toFinset.card = 2 := by decide +kernel
  rw [hcard] at hhits
  exact ⟨hstmt, hkinds, hvalues, c, hc, hsites, Nat.add_right_cancel hhits⟩

end SqlTyping
