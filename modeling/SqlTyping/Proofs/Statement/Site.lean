import SqlTyping.Proofs.Statement.Operand
import SqlTyping.Proofs.Statement.Options

/-!
# Sites and statements are read back

The sites that can be read are the well-formed ones: the name of a call is a word without
parentheses, a family that the result must widen to is only asked for where a value is, and the
types of operands are well formed (`Site.of_read`). The spelling of a well-formed site is read as
the site (`Site.read_render`). The sites of a statement are spelled in single lines, because nothing
that is read from a line holds a line feed, and so the lines are read as the statement
(`Statement.parse_render`).
-/

namespace SqlTyping

namespace Site

/-! ## Spellings of sites -/

/-- Whether a text can be the name of a routine in a call. -/
def IsName (name : String) : Prop :=
  name.toList ≠ [] ∧ ∀ c ∈ name.toList, Text.isSpace c = false ∧ c ≠ '('

/-- The sites that have a spelling. -/
def WellFormed : Site → Prop
  | call name ops context _ =>
    IsName name ∧ (∀ o ∈ ops, o.WellFormed) ∧ (context.desired.isSome → context.wantsValue)
  | merge _ ops => ∀ o ∈ ops, o.WellFormed

lemma readOperands_render {ops : List Operand} (hops : ∀ o ∈ ops, o.WellFormed) (position : Nat) :
    readOperands position (ops.map fun o => o.render.toList) = .ok ops := by
  induction ops generalizing position with
  | nil => rfl
  | cons o ops ih =>
    rw [List.forall_mem_cons] at hops
    rw [List.map_cons, readOperands, Operand.read_render hops.1]
    change (readOperands (position + 1) _ >>= _) = _
    rw [ih hops.2]
    rfl

lemma toList_renderOperands (ops : List Operand) :
    (renderOperands ops).toList =
      '(' :: ([',', ' '].intercalate (ops.map fun o => o.render.toList) ++ [')']) := by
  simp [renderOperands, String.toList_intercalate, Function.comp_def]

/-- The operands between parentheses are found again, whatever follows. -/
lemma splitOperands?_render (ops : List Operand) (rest : List Char) :
    splitOperands? ([',', ' '].intercalate (ops.map fun o => o.render.toList) ++ ')' :: rest) =
      some (ops.map fun o => o.render.toList, rest) := by
  have htexts : ∀ cs ∈ ops.map fun o => o.render.toList, Text.trimList cs ≠ [] ∧ Closed cs := by
    intro cs hcs
    obtain ⟨o, -, rfl⟩ := List.mem_map.mp hcs
    rw [o.trimList_render]
    exact ⟨o.render_ne_nil, o.closed_render⟩
  rw [splitOperands?_join htexts, List.map_map]
  simp only [Function.comp_def, Operand.trimList_render]

/-- The first opening parenthesis divides a line. -/
lemma divide_at_opening {front : List Char} (hfront : '(' ∉ front) (body : List Char) :
    (front ++ '(' :: body).takeWhile (· != '(') = front ∧
      (front ++ '(' :: body).dropWhile (· != '(') = '(' :: body := by
  have hpos : ∀ c ∈ front, (c != '(') = true := by
    intro c hc
    rw [bne_iff_ne]
    rintro rfl
    exact hfront hc
  rw [List.dropWhile_append_of_pos hpos, List.takeWhile_append_of_pos hpos,
    List.dropWhile_cons_of_neg (by decide), List.takeWhile_cons_of_neg (by decide),
    List.append_nil]
  exact ⟨rfl, rfl⟩

/-- A site is read from the words in front of its operands, the operands and the text behind. -/
lemma read_of_parts {front body rest : List Char} {opening : Opening} {texts : List (List Char)}
    {ops : List Operand} (hfront : '(' ∉ front)
    (hopening : readOpening? (Text.wordList front) = some opening)
    (hsplit : splitOperands? body = some (texts, rest)) (hops : readOperands 0 texts = .ok ops) :
    read (front ++ '(' :: body) = opening.complete ops rest := by
  obtain ⟨htake, hdrop⟩ := divide_at_opening hfront body
  rw [read, htake, hdrop, hopening]
  simp only [hsplit, hops, Except.ok_bind]

/-- A merge is read from its keyword and its operands. -/
lemma read_merge (keyword : MergeKeyword) {body : List Char} {texts : List (List Char)}
    {ops : List Operand} (hsplit : splitOperands? body = some (texts, []))
    (hops : readOperands 0 texts = .ok ops) :
    read (keyword.text.toList ++ '(' :: body) = .ok (.merge keyword ops) := by
  have hopening : readOpening? (Text.wordList keyword.text.toList) = some (.merge keyword) := by
    cases keyword <;> rfl
  rw [read_of_parts (by cases keyword <;> decide) hopening hsplit hops]
  rfl

/-- A call is read from its name, its operands and its options. -/
lemma read_call {name : String} (hname : IsName name) {body rest : List Char}
    {texts : List (List Char)} {ops : List Operand}
    (hsplit : splitOperands? body = some (texts, rest)) (hops : readOperands 0 texts = .ok ops) :
    read ("call ".toList ++ name.toList ++ '(' :: body) =
      (readCallOptions rest).map fun r => .call name ops r.1 r.2 := by
  have htext : "call ".toList ++ name.toList ++ '(' :: body =
      ("call".toList ++ ' ' :: name.toList) ++ '(' :: body := by
    simp
  have hfront : '(' ∉ "call".toList ++ ' ' :: name.toList := by
    have hnot : '(' ∉ name.toList := fun h => (hname.2 _ h).2 rfl
    simp [hnot]
  have hopening : readOpening? (Text.wordList ("call".toList ++ ' ' :: name.toList)) =
      some (.call name) := by
    have hcall : Text.equalFold (String.ofList "call".toList) "call" = true := by decide
    rw [Text.wordList_append_cons (by decide) (Text.isSpace_of_any (by decide)) rfl,
      Text.wordList_of_forall hname.1 fun c hc => (hname.2 c hc).1, readOpening?, if_pos hcall,
      String.ofList_toList]
  rw [htext, read_of_parts hfront hopening hsplit hops]
  rfl

/-- The spelling of a well-formed site is read as the site. -/
lemma read_render {s : Site} (hs : s.WellFormed) : read s.render.toList = .ok s := by
  cases s with
  | merge keyword ops =>
    have htext : (merge keyword ops).render.toList = keyword.text.toList ++
        '(' :: ([',', ' '].intercalate (ops.map fun o => o.render.toList) ++ [')']) := by
      simp [render, toList_renderOperands]
    rw [htext, read_merge keyword (splitOperands?_render ops []) (readOperands_render hs 0)]
  | call name ops context host =>
    obtain ⟨hname, hops, hcontext⟩ := hs
    have htext : (call name ops context host).render.toList = "call ".toList ++ name.toList ++
        '(' :: ([',', ' '].intercalate (ops.map fun o => o.render.toList) ++
          ')' :: ((renderContext context).toList ++
            ((host.map fun h => " signature " ++ h.render).getD "").toList)) := by
      simp [render, toList_renderOperands]
    rw [htext, read_call hname (splitOperands?_render ops _) (readOperands_render hops 0),
      readCallOptions_render hcontext]
    rfl

/-! ## Sites that are read -/

/-- Cut texts consist of characters of the list. -/
lemma mem_of_segments? {depth : Nat} {quoted : Bool} {cs text : List Char}
    {r : List (List Char) × List Char} (h : segments? depth quoted cs = some r)
    (htext : text ∈ r.1) {c : Char} (hc : c ∈ text) : c ∈ cs := by
  induction cs generalizing depth quoted text r with
  | nil => cases h
  | cons d cs ih =>
    -- The first character goes to the first text of the rest.
    have hpush : ∀ {depth : Nat} {quoted : Bool},
        (segments? depth quoted cs).map (prepend [d]) = some r → c ∈ d :: cs := by
      intro depth quoted h
      obtain ⟨⟨texts, rest⟩, hr, rfl⟩ := Option.map_eq_some_iff.mp h
      cases texts with
      | nil => exact absurd rfl (ne_nil_of_segments? hr)
      | cons first others =>
        rcases List.mem_cons.mp htext with rfl | htext
        · rcases List.mem_cons.mp hc with rfl | hc
          · exact List.mem_cons_self
          · exact List.mem_cons_of_mem d (ih hr List.mem_cons_self hc)
        · exact List.mem_cons_of_mem d (ih hr (List.mem_cons_of_mem first htext) hc)
    rw [segments?] at h
    split_ifs at h
    · exact hpush h
    · exact hpush h
    · exact hpush h
    · cases h
      rw [List.mem_singleton] at htext
      subst htext
      cases hc
    · exact hpush h
    · obtain ⟨r', hr, rfl⟩ := Option.map_eq_some_iff.mp h
      rcases List.mem_cons.mp htext with rfl | htext
      · cases hc
      · exact List.mem_cons_of_mem d (ih hr htext hc)
    · exact hpush h

lemma mem_of_splitOperands? {cs text rest : List Char} {texts : List (List Char)}
    (h : splitOperands? cs = some (texts, rest)) (htext : text ∈ texts) {c : Char}
    (hc : c ∈ text) : c ∈ cs := by
  obtain ⟨r, hr, h⟩ := Option.map_eq_some_iff.mp h
  have hmem : text ∈ r.1.map Text.trimList := by
    dsimp only at h
    split at h
    · cases h
      cases htext
    · cases h
      exact htext
  obtain ⟨piece, hpiece, rfl⟩ := List.mem_map.mp hmem
  exact mem_of_segments? hr hpiece (Text.mem_of_mem_trimList hc)

/-- Operands that are read are well formed, and their constants stand in the texts. -/
lemma of_readOperands {texts : List (List Char)} {ops : List Operand} {position : Nat}
    (h : readOperands position texts = .ok ops) {o : Operand} (ho : o ∈ ops) :
    o.WellFormed ∧
      ∀ constant ∈ o.constant?, ∀ c ∈ constant.toList, ∃ text ∈ texts, c ∈ text := by
  induction texts generalizing position ops with
  | nil =>
    cases h
    cases ho
  | cons text texts ih =>
    obtain ⟨first, hfirst, h⟩ := Except.bind_eq_ok_iff.mp h
    obtain ⟨others, hothers, h⟩ := Except.bind_eq_ok_iff.mp h
    cases h
    rcases List.mem_cons.mp ho with rfl | ho
    · obtain ⟨hwell, hconstant⟩ := Operand.of_read (Except.mapError_eq_ok_iff.mp hfirst)
      exact ⟨hwell, fun constant hmem c hc =>
        ⟨text, List.mem_cons_self, hconstant constant hmem c hc⟩⟩
    · obtain ⟨hwell, hconstant⟩ := ih hothers ho
      refine ⟨hwell, fun constant hmem c hc => ?_⟩
      obtain ⟨other, hother, hc⟩ := hconstant constant hmem c hc
      exact ⟨other, List.mem_cons_of_mem text hother, hc⟩

/-- Whoever asks for a family asks for a value. -/
lemma wantsValue_of_readOptions {options : List Text.Piece} {c d : ReturnContext}
    {words : List (List Text.Piece)} (hc : c.desired.isSome → c.wantsValue)
    (h : readOptions options c words = .ok d) : d.desired.isSome → d.wantsValue := by
  fun_induction readOptions options c words with
  | case1 =>
    cases h
    exact hc
  | case2 =>
    cases h
    exact fun _ => rfl
  | case3 =>
    cases h
    exact hc
  | case4 => cases h
  | case5 => cases h
  | case6 c word next rest hword ih => exact ih (fun _ => rfl) h
  | case7 c word next rest hword ih => exact ih hc h
  | case8 => cases h
  | case9 c word next rest hword f hf ih => exact ih (fun _ => rfl) h
  | case10 => cases h

lemma wantsValue_of_readCallOptions {rest : List Char} {r : ReturnContext × Option HostSignature}
    (h : readCallOptions rest = .ok r) : r.1.desired.isSome → r.1.wantsValue := by
  unfold readCallOptions at h
  split at h
  · obtain ⟨c, hc, rfl⟩ := Except.map_eq_ok_iff.mp h
    exact wantsValue_of_readOptions (by simp) hc
  · obtain ⟨host, -, h⟩ := Except.bind_eq_ok_iff.mp h
    obtain ⟨c, hc, h⟩ := Except.bind_eq_ok_iff.mp h
    cases h
    exact wantsValue_of_readOptions (by simp) hc

/-- The name of a call is a word from the text in front of the operands. -/
lemma isName_of_readOpening? {front : List Char} {name : String} (hfront : ∀ c ∈ front, c ≠ '(')
    (h : readOpening? (Text.wordList front) = some (.call name)) : IsName name := by
  have hmem : name.toList ∈ Text.wordList front := by
    unfold readOpening? at h
    split at h
    · next word text hwords =>
      split at h
      · cases h
        rw [hwords, String.toList_ofList]
        exact List.mem_cons_of_mem word List.mem_cons_self
      · cases h
    · split_ifs at h <;> cases h
    · cases h
  obtain ⟨hne, hchars⟩ := Text.of_mem_wordList hmem
  exact ⟨hne, fun c hc => ⟨(hchars c hc).2, hfront c (hchars c hc).1⟩⟩

/-- Every site that is read is well formed, and its constants stand in the text. -/
lemma of_read {line : List Char} {s : Site} (h : read line = .ok s) :
    s.WellFormed ∧
      ∀ o ∈ s.operands, ∀ constant ∈ o.constant?, ∀ c ∈ constant.toList, c ∈ line := by
  unfold read at h
  split at h
  · cases h
  next _ body hbody =>
  split at h
  · cases h
  next opening hopening =>
  split at h
  · cases h
  next texts rest hsplit =>
  obtain ⟨ops, hops, h⟩ := Except.bind_eq_ok_iff.mp h
  have hline : ∀ o ∈ ops, ∀ constant ∈ o.constant?, ∀ c ∈ constant.toList, c ∈ line := by
    intro o ho constant hconstant c hc
    obtain ⟨text, htext, hc⟩ := (of_readOperands hops ho).2 constant hconstant c hc
    have hmem : c ∈ line.dropWhile (· != '(') :=
      hbody ▸ List.mem_cons_of_mem _ (mem_of_splitOperands? hsplit htext hc)
    exact (List.dropWhile_suffix _).subset hmem
  have hwell : ∀ o ∈ ops, o.WellFormed := fun o ho => (of_readOperands hops ho).1
  cases opening with
  | merge keyword =>
    rw [Opening.complete] at h
    split at h
    · cases h
      exact ⟨hwell, hline⟩
    · cases h
  | call name =>
    obtain ⟨⟨context, host⟩, hoptions, rfl⟩ := Except.map_eq_ok_iff.mp h
    refine ⟨⟨isName_of_readOpening? ?_ hopening, hwell, wantsValue_of_readCallOptions hoptions⟩,
      hline⟩
    intro c hc
    simpa using List.mem_takeWhile_imp hc

lemma parse_eq_ok_iff {line : String} {s : Site} : parse line = .ok s ↔ read line.toList = .ok s :=
  Except.mapError_eq_ok_iff

/-! ## Lines of a statement -/

lemma isSpace_of_getLast?_spaced {words : List (List Char)}
    (hwords : ∀ w ∈ words, IsOptionWord w) :
    ∀ c ∈ (spaced words).getLast?, Text.isSpace c = false := by
  induction words with
  | nil => exact nofun
  | cons w words ih =>
    rw [List.forall_mem_cons] at hwords
    have hw : ∀ c ∈ w.getLast?, Text.isSpace c = false := fun c hc =>
      (hwords.1.2.1 c (List.mem_of_getLast? hc)).1
    rw [spaced_cons, ← List.singleton_append, List.getLast?_append_of_ne_nil _
      (List.append_ne_nil_of_left_ne_nil hwords.1.1 _)]
    exact Text.isSpace_of_getLast?_append hw (ih hwords.2)

lemma isSpace_of_getLast?_renderOperands (cs : List Char) (ops : List Operand) :
    ∀ c ∈ (cs ++ (renderOperands ops).toList).getLast?, Text.isSpace c = false := by
  rw [toList_renderOperands]
  exact Text.isSpace_of_getLast?_parenthesis cs _

/-- The spelling of a site has no white space at its ends. -/
lemma trimList_render (s : Site) : Text.trimList s.render.toList = s.render.toList := by
  cases s with
  | merge keyword ops =>
    rw [render, String.toList_append]
    refine Text.trimList_eq_self ?_ (isSpace_of_getLast?_renderOperands _ ops)
    cases keyword <;> (rintro c ⟨⟩; rfl)
  | call name ops context host =>
    rw [render]
    simp only [String.toList_append]
    refine Text.trimList_eq_self ?_ ?_
    · rintro c ⟨⟩
      rfl
    · have hcontext : ∀ c ∈ (renderContext context).toList.getLast?, Text.isSpace c = false := by
        rw [toList_renderContext]
        exact isSpace_of_getLast?_spaced fun w => isOptionWord_of_mem
      have hhost : ∀ c ∈ ((host.map fun h => " signature " ++ h.render).getD "").toList.getLast?,
          Text.isSpace c = false := by
        cases host with
        | none => exact nofun
        | some h =>
          rw [Option.map_some, Option.getD_some, String.toList_append, HostSignature.toList_render]
          exact Text.isSpace_of_getLast?_parenthesis _ h.inner
      exact Text.isSpace_of_getLast?_append
        (Text.isSpace_of_getLast?_append (isSpace_of_getLast?_renderOperands _ ops) hcontext) hhost

/-- The spelling of a site is no blank line and no comment. -/
lemma isSkipped_render (s : Site) : Statement.isSkipped s.render.toList = false := by
  cases s with
  | merge keyword ops =>
    rw [render, String.toList_append]
    cases keyword <;> rfl
  | call name ops context host =>
    simp [render, Statement.isSkipped, List.isPrefixOf]

lemma newline_not_mem_renderOperands {ops : List Operand}
    (hops : ∀ o ∈ ops, ∀ constant ∈ o.constant?, '\n' ∉ constant.toList) :
    '\n' ∉ (renderOperands ops).toList := by
  have hjoined : '\n' ∉ [',', ' '].intercalate (ops.map fun o => o.render.toList) := by
    induction ops with
    | nil => exact nofun
    | cons o ops ih =>
      rw [List.forall_mem_cons] at hops
      have ho := Operand.newline_not_mem_render hops.1
      cases ops with
      | nil => simpa using ho
      | cons p ops =>
        rw [List.map_cons, List.map_cons, List.intercalate_cons_cons]
        simpa [ho] using ih hops.2
  rw [toList_renderOperands]
  simp [hjoined]

/-- A spelling is a single line if the constants are. -/
lemma newline_not_mem_render {s : Site} (hs : s.WellFormed)
    (hline : ∀ o ∈ s.operands, ∀ constant ∈ o.constant?, '\n' ∉ constant.toList) :
    '\n' ∉ s.render.toList := by
  cases s with
  | merge keyword ops =>
    have hkeyword : '\n' ∉ keyword.text.toList := by cases keyword <;> decide
    have hops : '\n' ∉ (renderOperands ops).toList := newline_not_mem_renderOperands hline
    simp [render, hkeyword, hops]
  | call name ops context host =>
    have hname : '\n' ∉ name.toList := fun h => absurd (hs.1.2 _ h).1 (by decide)
    have hcontext : '\n' ∉ (renderContext context).toList := by
      rw [toList_renderContext]
      intro h
      obtain ⟨w, hw, h⟩ := List.mem_flatMap.mp h
      rcases List.mem_cons.mp h with h | h
      · exact absurd h (by decide)
      · exact absurd ((isOptionWord_of_mem hw).2.1 _ h).1 (by decide)
    have hhost : '\n' ∉ ((host.map fun h => " signature " ++ h.render).getD "").toList := by
      cases host with
      | none => exact nofun
      | some h => simp [HostSignature.newline_not_mem_render h]
    have hops : '\n' ∉ (renderOperands ops).toList := newline_not_mem_renderOperands hline
    simp [render, hname, hops, hcontext, hhost]

end Site

namespace Statement

/-- The lines that spell sites are read as the sites. -/
lemma readLines_render (name : String) (number : Nat) {sites : List Site}
    (h : ∀ s ∈ sites, s.WellFormed) :
    readLines name number (sites.map fun s => s.render.toList) = .ok sites := by
  induction sites generalizing number with
  | nil => rfl
  | cons s sites ih =>
    rw [List.forall_mem_cons] at h
    have hparse : Site.parse s.render = .ok s := Site.parse_eq_ok_iff.mpr (Site.read_render h.1)
    rw [List.map_cons, readLines, Site.trimList_render, Site.isSkipped_render,
      String.ofList_toList, hparse]
    change (readLines name (number + 1) _ >>= _) = _
    rw [ih _ h.2]
    rfl

/-- Every site of a statement is well formed, and its constants stand in one of the lines. -/
lemma of_readLines {name : String} {number : Nat} {lines : List (List Char)} {sites : List Site}
    (h : readLines name number lines = .ok sites) {s : Site} (hs : s ∈ sites) :
    s.WellFormed ∧ ∀ o ∈ s.operands, ∀ constant ∈ o.constant?, ∀ c ∈ constant.toList,
      ∃ line ∈ lines, c ∈ line := by
  induction lines generalizing number sites with
  | nil =>
    cases h
    cases hs
  | cons line lines ih =>
    have hlater : ∀ {others : List Site}, readLines name (number + 1) lines = .ok others →
        s ∈ others → s.WellFormed ∧ ∀ o ∈ s.operands, ∀ constant ∈ o.constant?,
          ∀ c ∈ constant.toList, ∃ line' ∈ line :: lines, c ∈ line' := by
      intro others hothers hs
      obtain ⟨hwell, hconstants⟩ := ih hothers hs
      refine ⟨hwell, fun o ho constant hconstant c hc => ?_⟩
      obtain ⟨line', hline', hc⟩ := hconstants o ho constant hconstant c hc
      exact ⟨line', List.mem_cons_of_mem line hline', hc⟩
    rw [readLines] at h
    split at h
    · exact hlater h hs
    · obtain ⟨first, hfirst, h⟩ := Except.bind_eq_ok_iff.mp h
      obtain ⟨others, hothers, h⟩ := Except.bind_eq_ok_iff.mp h
      cases h
      rcases List.mem_cons.mp hs with rfl | hs
      · rw [Except.mapError_eq_ok_iff, Site.parse_eq_ok_iff, String.toList_ofList] at hfirst
        obtain ⟨hwell, hconstants⟩ := Site.of_read hfirst
        exact ⟨hwell, fun o ho constant hconstant c hc => ⟨line, List.mem_cons_self,
          Text.mem_of_mem_trimList (hconstants o ho constant hconstant c hc)⟩⟩
      · exact hlater hothers hs

/-- Sites that a statement can hold: they are well formed and spelled in a single line. -/
lemma of_parse {name text : String} {stmt : Statement} (h : parse name text = .ok stmt) :
    stmt.name = name ∧ ∀ s ∈ stmt.sites, s.WellFormed ∧ '\n' ∉ s.render.toList := by
  obtain ⟨sites, hsites, rfl⟩ := Except.map_eq_ok_iff.mp h
  refine ⟨rfl, fun s hs => ?_⟩
  obtain ⟨hwell, hconstants⟩ := of_readLines hsites hs
  refine ⟨hwell, Site.newline_not_mem_render hwell fun o ho constant hconstant hnewline => ?_⟩
  obtain ⟨line, hline, hmem⟩ := hconstants o ho constant hconstant _ hnewline
  exact absurd (Text.mem_of_mem_splitAtAll hline hmem).2 (by decide)

lemma wellFormed_of_parse {name text : String} {stmt : Statement}
    (h : parse name text = .ok stmt) : ∀ s ∈ stmt.sites, s.WellFormed :=
  fun s hs => ((of_parse h).2 s hs).1

/-- The spellings of the sites of a statement, one in a line, are read as the statement. -/
lemma parse_render {stmt : Statement}
    (h : ∀ s ∈ stmt.sites, s.WellFormed ∧ '\n' ∉ s.render.toList) :
    parse stmt.name ("\n".intercalate (stmt.sites.map Site.render)) = .ok stmt := by
  have hlines := readLines_render stmt.name 1 fun s hs => (h s hs).1
  have htext : ("\n".intercalate (stmt.sites.map Site.render)).toList =
      ['\n'].intercalate (stmt.sites.map fun s => s.render.toList) := by
    simp [String.toList_intercalate, Function.comp_def]
  rw [parse, htext]
  cases hsites : stmt.sites with
  | nil =>
    change Except.ok (⟨stmt.name, []⟩ : Statement) = _
    rw [← hsites]
  | cons s sites =>
    rw [hsites] at h hlines
    rw [List.map_cons] at hlines
    rw [List.map_cons, Text.splitAtAll_intercalate (by rfl), hlines]
    · change Except.ok (⟨stmt.name, s :: sites⟩ : Statement) = _
      rw [← hsites]
    · intro piece hpiece c hc
      obtain ⟨t, ht, rfl⟩ : ∃ t ∈ s :: sites, t.render.toList = piece := List.mem_map.mp hpiece
      rw [decide_eq_false_iff_not]
      rintro rfl
      exact (h t ht).2 hc

end Statement

/-- Sites can be read just when they are well formed, and reading the spelling of what was read
gives it again: of a site, and of all sites of a statement, one in a line. -/
theorem parse_render_of_parse :
    (∀ s : Site, (∃ line, Site.parse line = .ok s) ↔ s.WellFormed) ∧
      (∀ (line : String) (s : Site), Site.parse line = .ok s → Site.parse s.render = .ok s) ∧
      ∀ (name text : String) (stmt : Statement), Statement.parse name text = .ok stmt →
        Statement.parse name ("\n".intercalate (stmt.sites.map Site.render)) = .ok stmt := by
  have hwell : ∀ {line : String} {s : Site}, Site.parse line = .ok s → s.WellFormed :=
    fun h => (Site.of_read (Site.parse_eq_ok_iff.mp h)).1
  have hread : ∀ {s : Site}, s.WellFormed → Site.parse s.render = .ok s :=
    fun hs => Site.parse_eq_ok_iff.mpr (Site.read_render hs)
  refine ⟨fun s => ⟨fun ⟨_, h⟩ => hwell h, fun hs => ⟨s.render, hread hs⟩⟩,
    fun line s h => hread (hwell h), fun name text stmt h => ?_⟩
  obtain ⟨rfl, hsites⟩ := Statement.of_parse h
  exact Statement.parse_render hsites

/-- A constant with quotes, parentheses, a comma, a cast and the keyword of host signatures, in a
call with an empty host signature. -/
theorem parse_render_of_parse_quoted :
    let line := "Call  f('it''s (a,b)::signature'::varchar( 20 ) , ?,null::dec(5, 2) not null)" ++
      " Returns decimal NonNull SIGNATURE ( )"
    let s : Site := .call "f" [.constant "it's (a,b)::signature" ⟨.varchar, 0, 0, 20, true⟩,
      .untyped, .null ⟨.decimal, 5, 2, 0, false⟩] ⟨true, some .decimal, true⟩ (some [])
    let stmt : Statement := ⟨"q", [s, .merge .value [.typed ⟨.integer, 10, 0, 0, true⟩]]⟩
    s.WellFormed ∧ Site.parse line = .ok s ∧ Site.parse s.render = .ok s ∧
      Statement.parse "q" (line ++ "\n\n-- note\n value(integer)") = .ok stmt ∧
      Statement.parse "q" ("\n".intercalate (stmt.sites.map Site.render)) = .ok stmt := by
  intro line s stmt
  have hline : Site.parse line = .ok s := Except.eq_ok_of_toOption (by decide +kernel)
  have htext : Statement.parse "q" (line ++ "\n\n-- note\n value(integer)") = .ok stmt :=
    Except.eq_ok_of_toOption (by decide +kernel)
  exact ⟨(parse_render_of_parse.1 s).mp ⟨line, hline⟩, hline,
    parse_render_of_parse.2.1 line s hline, htext, parse_render_of_parse.2.2 "q" _ stmt htext⟩

end SqlTyping
