import SqlTyping.Proofs.Diagnostic
import SqlTyping.Proofs.Statement.Site
import SqlTyping.Proofs.Text.Bytes

/-!
# Texts that are not sites

Reading ends with a site or statement, or with a diagnostic that has one of four codes
(`readingCodes`), but for one kind of text. The keyword of a host signature is looked for in lower
case, and the bytes in front of it are counted there. Where two letters become longer in lower
case, the place behind the keyword can lie behind the end of the text (`HostOverruns`), and reading
crashes. All other places at which the text is cut lie within it.
-/

namespace SqlTyping

/-- The codes of texts that cannot be read: wrong grammar, unknown types, and precisions and
lengths out of range. -/
def readingCodes : List String :=
  ["42X01", "42X51", "42X48", "42611"]

/-- Whether a diagnostic has been given a code of a text that cannot be read. -/
def Diagnostic.RefusesText (d : Diagnostic) : Prop :=
  d.hasState = true ∧ d.state.text ∈ readingCodes

/-- A computation ends with a result or with a code, and does not crash. -/
def Answers {α : Type} (x : Except Abort α) : Prop :=
  (∃ a, x = .ok a) ∨ ∃ d, x = .error (.error d) ∧ d.RefusesText

namespace Diagnostic

lemma refusesText_of_ownState? {d : Diagnostic} {s : SqlState} (h : d.ownState? = some s)
    (hs : s.text ∈ readingCodes) : d.RefusesText := by
  have hne : s ≠ .uncategorized := by
    rintro rfl
    exact absurd hs (by decide)
  refine ⟨by rw [hasState, h]; rfl, ?_⟩
  rwa [state_of_ne_uncategorized h hne]

lemma refusesText_ofCode {s : SqlState} (hs : s.text ∈ readingCodes) (message : String) :
    (ofCode s message).RefusesText :=
  refusesText_of_ownState? rfl hs

lemma RefusesText.placed {d : Diagnostic} (h : d.RefusesText) (position : Nat) :
    (Diagnostic.placed position d).RefusesText := h

lemma RefusesText.inContext {d : Diagnostic} (h : d.RefusesText) (context : String) :
    (Diagnostic.inContext context d).RefusesText := h

end Diagnostic

/-! ## Type names -/

namespace TypeName

/-- Whether an error has a code. Only a family number that stands for no family has none, and
readers never use numbers for families. -/
def ReadError.HasCode : ReadError → Prop
  | .attributes (.noFamily _) => False
  | _ => True

lemma ReadError.HasCode.refusesText {e : ReadError} (h : e.HasCode) (quoted : String) :
    (e.diagnostic quoted).RefusesText := by
  cases e with
  | attributes cause =>
    cases cause with
    | noFamily => exact h.elim
    | _ => exact Diagnostic.refusesText_ofCode (by decide) _
  | _ => exact Diagnostic.refusesText_ofCode (by decide) _

lemma hasCode_blame (ts : List Token) : (blame ts).HasCode := by
  cases ts <;> trivial

lemma failsOnly_tokensFrom (word cs : List Char) :
    (tokensFrom word cs).FailsOnly ReadError.HasCode := by
  induction cs generalizing word with
  | nil => exact .ok _
  | cons c cs ih =>
    unfold tokensFrom
    refine .ite (ih _) ?_
    split
    · exact (ih _).map _
    · exact .error trivial

lemma failsOnly_expect (t : Token) (ts : List Token) :
    (expect t ts).FailsOnly ReadError.HasCode := by
  cases ts with
  | nil => exact .error trivial
  | cons t' ts => exact .ite (.ok _) (.error trivial)

lemma failsOnly_readNumber (ts : List Token) : (readNumber ts).FailsOnly ReadError.HasCode := by
  unfold readNumber
  split
  · exact .ok _
  · exact .error trivial
  · exact .error (hasCode_blame ts)

lemma failsOnly_readLength (multipliers : Bool) (ts : List Token) :
    (readLength multipliers ts).FailsOnly ReadError.HasCode := by
  refine .bind (failsOnly_expect _ ts) fun ts => ?_
  dsimp only
  split
  · exact .error trivial
  · exact .error (hasCode_blame ts)
  · exact .bind (failsOnly_expect _ _) fun _ => .ite (.error trivial) (.ok _)

lemma failsOnly_readForBitData (plain bit : Family) (ts : List Token) :
    (readForBitData plain bit ts).FailsOnly ReadError.HasCode := by
  unfold readForBitData
  split
  · exact .ok _
  · exact .bind (failsOnly_expect _ _) fun _ => .bind (failsOnly_expect _ _) fun _ => .ok _

/-- A type is built for a family, not for a number. -/
lemma failsOnly_build (f : Family) (precision scale length : Int) :
    (build f precision scale length).FailsOnly ReadError.HasCode := by
  unfold build SqlType.make
  split_ifs <;> first | exact .ok _ | exact .error trivial

lemma failsOnly_readDecimal (ts : List Token) : (readDecimal ts).FailsOnly ReadError.HasCode := by
  have hclosing : ∀ (precision scale : Int) (ts : List Token),
      (expect .closing ts >>= fun ts => Except.ok ((precision, scale), ts)).FailsOnly
        ReadError.HasCode :=
    fun _ _ _ => .bind (failsOnly_expect _ _) fun _ => .ok _
  have hattributes : (readDecimalAttributes ts).FailsOnly ReadError.HasCode := by
    refine .ite (.bind (failsOnly_readNumber _) fun r => .ite ?_ ?_) (.ok _)
    · exact .bind (failsOnly_readNumber _) fun s => hclosing r.1 s.1 s.2
    · exact hclosing r.1 0 r.2
  refine .bind hattributes fun _ => .ite (.error trivial) ?_
  exact .bind (failsOnly_build _ _ _ _) fun _ => .ok _

lemma failsOnly_readFloat (ts : List Token) : (readFloat ts).FailsOnly ReadError.HasCode := by
  refine .ite (.bind (failsOnly_readNumber _) fun _ => ?_) (.ok _)
  exact .bind (failsOnly_expect _ _) fun _ => .ite (.error trivial) (.ite (.ok _) (.ok _))

lemma failsOnly_readVarchar (ts : List Token) :
    (readVarchar ts).FailsOnly ReadError.HasCode :=
  .bind (failsOnly_readLength _ _) fun _ => .bind (failsOnly_readForBitData _ _ _) fun _ =>
    .bind (failsOnly_build _ _ _ _) fun _ => .ok _

lemma failsOnly_readLengthOr (multipliers : Bool) (default : Nat) (ts : List Token) :
    (readLengthOr multipliers default ts).FailsOnly ReadError.HasCode :=
  .ite (failsOnly_readLength _ _) (.ok _)

lemma failsOnly_readLargeObject (f : Family) (ts : List Token) :
    (readLargeObject f ts).FailsOnly ReadError.HasCode :=
  .bind (failsOnly_readLengthOr _ _ _) fun _ => .bind (failsOnly_build _ _ _ _) fun _ => .ok _

lemma failsOnly_readCharacter (ts : List Token) :
    (readCharacter ts).FailsOnly ReadError.HasCode := by
  unfold readCharacter
  split
  · exact failsOnly_readVarchar _
  · split
    · exact .bind (failsOnly_expect _ _) fun _ => failsOnly_readLargeObject _ _
    · exact .bind (failsOnly_readLengthOr _ _ _) fun _ =>
        .bind (failsOnly_readForBitData _ _ _) fun _ =>
          .bind (failsOnly_build _ _ _ _) fun _ => .ok _

lemma failsOnly_readAfter (o : Opening) (ts : List Token) :
    (readAfter o ts).FailsOnly ReadError.HasCode := by
  cases o with
  | fixed f => exact .ok _
  | decimal => exact failsOnly_readDecimal ts
  | double => exact .ok _
  | float => exact failsOnly_readFloat ts
  | character => exact failsOnly_readCharacter ts
  | varchar => exact failsOnly_readVarchar ts
  | long =>
    refine .bind (failsOnly_expect _ _) fun _ => ?_
    exact .bind (failsOnly_readForBitData _ _ _) fun _ => .ok _
  | largeObject f => exact failsOnly_readLargeObject f ts
  | binary =>
    exact .bind (failsOnly_expect _ _) fun _ => .bind (failsOnly_expect _ _) fun _ =>
      failsOnly_readLargeObject _ _

lemma failsOnly_readNullable (ts : List Token) :
    (readNullable ts).FailsOnly ReadError.HasCode := by
  cases ts with
  | nil => exact .error trivial
  | cons t ts =>
    rw [readNullable]
    split
    · exact failsOnly_readAfter _ ts
    · exact .error trivial

/-- Every error about a type name has a code. -/
lemma failsOnly_read (cs : List Char) : (read cs).FailsOnly ReadError.HasCode := by
  refine .bind (failsOnly_tokensFrom [] cs) fun ts => .bind (failsOnly_readNullable ts) ?_
  rintro ⟨t, ts⟩
  dsimp only
  split
  · exact .ite (.ok _) (.error (hasCode_blame _))
  · exact .bind (failsOnly_expect _ _) fun ts => .ite (.ok _) (.error (hasCode_blame ts))

end TypeName

/-! ## Operands -/

namespace Operand

lemma failsOnly_readType (cs : List Char) :
    (readType cs).FailsOnly fun e => e.diagnostic.RefusesText :=
  (TypeName.failsOnly_read cs).mapError fun _ he => he.refusesText _

/-- Every error about an operand has a code. -/
lemma failsOnly_read (cs : List Char) :
    (Operand.read cs).FailsOnly fun e => e.diagnostic.RefusesText := by
  have hcode : ∀ {message : String}, (Diagnostic.ofCode .syntaxError message).RefusesText :=
    Diagnostic.refusesText_ofCode (by decide) _
  unfold Operand.read
  split_ifs
  · exact .error hcode
  · exact .ok _
  · exact (failsOnly_readType _).map _
  · split
    · split
      · exact (failsOnly_readType _).map _
      · exact .error hcode
    · exact (failsOnly_readType cs).map _

/-- What is read of a constant ends in a quote, and the rest of the text follows. -/
lemma exists_of_readConstant? {cs : List Char} {r : List Char × List Char}
    (h : readConstant? cs = some r) : ∃ before, cs = before ++ '\'' :: r.2 := by
  induction cs using readConstant?.induct generalizing r with
  | case1 => cases h
  | case2 rest ih =>
    obtain ⟨r', hr, rfl⟩ := Option.map_eq_some_iff.mp h
    obtain ⟨before, rfl⟩ := ih hr
    exact ⟨'\'' :: '\'' :: before, rfl⟩
  | case3 rest hpair =>
    rw [readConstant?, if_pos rfl] at h
    · cases h
      exact ⟨[], rfl⟩
    · exact hpair
  | case4 c rest hpair hquote ih =>
    rw [readConstant?, if_neg hquote] at h
    · obtain ⟨r', hr, rfl⟩ := Option.map_eq_some_iff.mp h
      obtain ⟨before, rfl⟩ := ih hr
      exact ⟨c :: before, rfl⟩
    · exact hpair

/-- The mark of a NULL is found in upper case, but it is six bytes long in every letter case. -/
lemma cutAt_of_null {cs : List Char} (h : (cs.take 6).map Text.upperChar = "NULL::".toList) :
    Text.cutAt 6 cs = .between (cs.take 6) (cs.drop 6) := by
  have hascii : ∀ c ∈ cs.take 6, c.toNat < 0x80 := by
    intro c hc
    have hmem : Text.upperChar c ∈ "NULL::".toList := h ▸ List.mem_map_of_mem hc
    have hall : ("NULL::".toList.all fun u =>
        u.toNat.blt 0x80 && !(['I', 'S'].contains u)) = true := by decide
    have hu := List.all_eq_true.mp hall _ hmem
    rw [Bool.and_eq_true, Nat.blt_eq, Bool.not_eq_true', List.contains_eq_mem,
      decide_eq_false_iff_not] at hu
    exact Text.toNat_lt_of_upperChar hu.1 hu.2
  have hlength : (Text.bytesOf (cs.take 6)).length = 6 := by
    rw [Text.length_bytesOf_of_ascii hascii, ← List.length_map Text.upperChar, h]
    rfl
  have hcut := Text.cutAt_length_bytesOf (cs.take 6) (cs.drop 6)
  rwa [hlength, List.take_append_drop] at hcut

end Operand

namespace Site

/-- Cut texts are joined by commas again, up to the closing parenthesis. -/
lemma eq_of_segments? {depth : Nat} {quoted : Bool} {cs : List Char}
    {r : List (List Char) × List Char} (h : segments? depth quoted cs = some r) :
    cs = [','].intercalate r.1 ++ ')' :: r.2 := by
  induction cs generalizing depth quoted r with
  | nil => cases h
  | cons c cs ih =>
    have hpush : ∀ {depth : Nat} {quoted : Bool},
        (segments? depth quoted cs).map (prepend [c]) = some r →
          c :: cs = [','].intercalate r.1 ++ ')' :: r.2 := by
      intro depth quoted h
      obtain ⟨⟨texts, rest⟩, hr, rfl⟩ := Option.map_eq_some_iff.mp h
      rw [ih hr]
      cases texts with
      | nil => exact absurd rfl (ne_nil_of_segments? hr)
      | cons first others => cases others <;> simp [prepend, List.intercalate_cons_cons]
    rw [segments?] at h
    split_ifs at h with hquoted hquote hopening hclosing hdepth hcomma
    · exact hpush h
    · exact hpush h
    · exact hpush h
    · cases h
      rw [hclosing]
      rfl
    · exact hpush h
    · obtain ⟨⟨texts, rest⟩, hr, rfl⟩ := Option.map_eq_some_iff.mp h
      rw [ih hr, hcomma.1]
      cases texts with
      | nil => exact absurd rfl (ne_nil_of_segments? hr)
      | cons first others => simp [List.intercalate_cons_cons]
    · exact hpush h

/-! ## Host signatures -/

/-- The bytes that are counted are those in front of the first occurrence. -/
lemma byteOffset?_eq_some_iff {word cs : List Char} (hword : word ≠ []) {n : Nat} :
    byteOffset? word cs = some n ↔
      ∃ before after, cs = before ++ word ++ after ∧ n = (Text.bytesOf before).length ∧
        ∀ b a, cs = b ++ word ++ a → before.length ≤ b.length := by
  induction cs generalizing n with
  | nil => simp [byteOffset?, hword]
  | cons c cs ih =>
    rw [byteOffset?]
    split_ifs with hfirst
    · obtain ⟨after, hafter⟩ := List.isPrefixOf_iff_prefix.mp hfirst
      constructor
      · rintro ⟨⟩
        exact ⟨[], after, hafter.symm, rfl, fun _ _ _ => Nat.zero_le _⟩
      · rintro ⟨before, -, -, rfl, hleast⟩
        have hnil := List.length_eq_zero_iff.mp (Nat.le_zero.mp (hleast [] after hafter.symm))
        rw [hnil]
        rfl
    · -- An occurrence does not start with the first character, so it is one in the rest.
      have hshift : ∀ {before after : List Char}, c :: cs = before ++ word ++ after →
          ∃ before', before = c :: before' ∧ cs = before' ++ word ++ after := by
        intro before after h
        cases before with
        | nil => exact absurd (List.isPrefixOf_iff_prefix.mpr ⟨after, h.symm⟩) hfirst
        | cons d before =>
          obtain ⟨rfl, hcs⟩ := List.cons.inj h
          exact ⟨before, rfl, hcs⟩
      rw [Option.map_eq_some_iff]
      constructor
      · rintro ⟨m, hm, rfl⟩
        obtain ⟨before, after, hcs, rfl, hleast⟩ := ih.mp hm
        refine ⟨c :: before, after, by rw [hcs]; rfl, (Text.length_bytesOf_cons c before).symm, ?_⟩
        intro b a h
        obtain ⟨b', rfl, hb⟩ := hshift h
        exact Nat.succ_le_succ (hleast b' a hb)
      · rintro ⟨before, after, hcs, rfl, hleast⟩
        obtain ⟨before', rfl, hcs'⟩ := hshift hcs
        refine ⟨_, ih.mpr ⟨before', after, hcs', rfl, ?_⟩,
          (Text.length_bytesOf_cons c before').symm⟩
        intro b a h
        exact Nat.le_of_succ_le_succ (hleast (c :: b) a (by rw [h]; rfl))

/-- The text behind a call is shorter than its lower case up to the keyword of a host signature. -/
def HostOverruns (rest : List Char) : Prop :=
  ∃ before after, rest.map Text.lowerChar = before ++ hostKeyword.toList ++ after ∧
    (∀ b a, rest.map Text.lowerChar = b ++ hostKeyword.toList ++ a → before.length ≤ b.length) ∧
    (Text.bytesOf rest).length < (Text.bytesOf (before ++ hostKeyword.toList)).length

lemma hostKeyword_ne_nil : hostKeyword.toList ≠ [] := by decide

lemma hostOverruns_iff {rest : List Char} :
    HostOverruns rest ↔
      ∃ offset, byteOffset? hostKeyword.toList (rest.map Text.lowerChar) = some offset ∧
        (Text.bytesOf rest).length < offset + hostKeyword.length := by
  have hkeyword : ∀ before : List Char, (Text.bytesOf (before ++ hostKeyword.toList)).length =
      (Text.bytesOf before).length + hostKeyword.length :=
    fun before => Text.length_bytesOf_append before hostKeyword.toList
  simp only [byteOffset?_eq_some_iff hostKeyword_ne_nil]
  constructor
  · rintro ⟨before, after, hrest, hleast, hlength⟩
    exact ⟨_, ⟨before, after, hrest, rfl, hleast⟩, hkeyword before ▸ hlength⟩
  · rintro ⟨_, ⟨before, after, hrest, rfl, hleast⟩, hlength⟩
    exact ⟨before, after, hrest, hleast, (hkeyword before).symm ▸ hlength⟩

/-- Only the two letters that grow can make a text shorter than its lower case. -/
lemma HostOverruns.exists_growing {rest : List Char} (h : HostOverruns rest) :
    ∃ c ∈ rest, c ∈ Text.growing := by
  obtain ⟨before, after, hrest, -, hlength⟩ := h
  by_contra hnone
  have hplain : ∀ c ∈ rest, c ∉ Text.growing := fun c hc hgrowing => hnone ⟨c, hc, hgrowing⟩
  have hle := Text.length_bytesOf_lower_le hplain
  rw [hrest, Text.length_bytesOf_append] at hle
  omega

/-! ## Sites -/

/-- Whether an error about a site has a code; the text is the line that the site is read from. -/
def HasCode (line : String) (e : SiteError) : Prop :=
  ∃ d, e.abort line = .error d ∧ d.RefusesText

variable {line : String}

lemma hasCode_siteSyntaxError {e : SiteError} {quoted reason : String}
    (h : e.abort line = .error (siteSyntaxError quoted reason)) : HasCode line e :=
  ⟨_, h, Diagnostic.refusesText_ofCode (by decide) _⟩

lemma failsOnly_readOperands (position : Nat) (texts : List (List Char)) :
    (readOperands position texts).FailsOnly (HasCode line) := by
  induction texts generalizing position with
  | nil => exact .ok _
  | cons text texts ih =>
    refine .bind ((Operand.failsOnly_read text).mapError fun e he => ?_) fun _ =>
      .bind (ih _) fun _ => .ok _
    exact ⟨_, rfl, (he.inContext _).placed position⟩

lemma failsOnly_readOptions (options : List Text.Piece) (c : ReturnContext)
    (words : List (List Text.Piece)) :
    (readOptions options c words).FailsOnly (HasCode line) := by
  fun_induction readOptions options c words with
  | case1 => exact .ok _
  | case2 => exact .ok _
  | case3 => exact .ok _
  | case4 => exact .error (hasCode_siteSyntaxError rfl)
  | case5 => exact .error (hasCode_siteSyntaxError rfl)
  | case6 c word next rest hword ih => exact ih
  | case7 c word next rest hword ih => exact ih
  | case8 => exact .error ⟨_, rfl, Diagnostic.refusesText_ofCode (by decide) _⟩
  | case9 c word next rest hword f hf ih => exact ih
  | case10 => exact .error (hasCode_siteSyntaxError rfl)

lemma hasCode_host (quoted : String) (cause : HostSignatureError) :
    HasCode line (.host quoted cause) := by
  refine ⟨_, rfl, ?_⟩
  cases cause with
  | noParentheses => exact Diagnostic.refusesText_ofCode (by decide) _
  | noHostType position part => exact (Diagnostic.refusesText_ofCode (by decide) _).placed _

lemma failsOnly_readHost {rest : List Char} {offset : Nat}
    (h : ¬ (Text.bytesOf rest).length < offset) :
    (readHost rest offset).FailsOnly (HasCode line) := by
  unfold readHost
  split
  · exact .of_mapError (hasCode_host _) _
  · exact .error (hasCode_host _ _)
  · next hbeyond => exact absurd ((Text.cutAt_eq_beyond_iff offset rest).mp hbeyond) h

lemma failsOnly_readCallOptions {rest : List Char} (h : ¬ HostOverruns rest) :
    (readCallOptions rest).FailsOnly (HasCode line) := by
  unfold readCallOptions
  split
  · exact (failsOnly_readOptions _ _ _).map _
  · next offset hoffset =>
    refine .bind (failsOnly_readHost fun hlength => ?_) fun _ => ?_
    · exact h (hostOverruns_iff.mpr ⟨offset, hoffset, hlength⟩)
    · exact .bind (failsOnly_readOptions _ _ _) fun _ => .ok _

lemma readCallOptions_of_hostOverruns {rest : List Char} (h : HostOverruns rest) :
    readCallOptions rest = .error .hostBeyondEnd := by
  obtain ⟨offset, hoffset, hlength⟩ := hostOverruns_iff.mp h
  have hcut := (Text.cutAt_eq_beyond_iff (offset + hostKeyword.length) rest).mpr hlength
  have hhost : readHost rest (offset + hostKeyword.length) = .error .hostBeyondEnd := by
    rw [readHost, hcut]
  rw [readCallOptions, hoffset]
  simp only [hhost]
  rfl

/-- A line is a call whose operands can be read, but whose end comes too early. -/
def Overruns (line : List Char) : Prop :=
  ∃ front body name texts rest ops, line = front ++ '(' :: body ∧ '(' ∉ front ∧
    readOpening? (Text.wordList front) = some (.call name) ∧
    splitOperands? body = some (texts, rest) ∧ readOperands 0 texts = .ok ops ∧ HostOverruns rest

lemma Overruns.read_eq {cs : List Char} (h : Overruns cs) : read cs = .error .hostBeyondEnd := by
  obtain ⟨front, body, name, texts, rest, ops, rfl, hfront, hopening, hsplit, hops, hhost⟩ := h
  rw [read_of_parts hfront hopening hsplit hops, Opening.complete,
    readCallOptions_of_hostOverruns hhost]
  rfl

lemma Overruns.exists_growing {cs : List Char} (h : Overruns cs) :
    ∃ c ∈ cs, c ∈ Text.growing := by
  obtain ⟨front, body, name, texts, rest, ops, rfl, -, -, hsplit, -, hhost⟩ := h
  obtain ⟨c, hc, hgrowing⟩ := hhost.exists_growing
  obtain ⟨r, hr, hrest⟩ := Option.map_eq_some_iff.mp hsplit
  cases hrest
  refine ⟨c, List.mem_append_right front (List.mem_cons_of_mem _ ?_), hgrowing⟩
  rw [eq_of_segments? hr]
  exact List.mem_append_right _ (List.mem_cons_of_mem _ hc)

lemma failsOnly_read {cs : List Char} (h : ¬ Overruns cs) :
    (read cs).FailsOnly (HasCode line) := by
  unfold read
  split
  · exact .error (hasCode_siteSyntaxError rfl)
  next head body hbody =>
  split
  · exact .error (hasCode_siteSyntaxError rfl)
  next opening hopening =>
  split
  · exact .error (hasCode_siteSyntaxError rfl)
  next texts rest hsplit =>
  cases hops : readOperands 0 texts with
  | error e => exact .error (failsOnly_readOperands 0 texts e hops)
  | ok ops =>
    rw [Except.ok_bind]
    cases opening with
    | merge keyword => exact .ite (.ok _) (.error (hasCode_siteSyntaxError rfl))
    | call name =>
      refine .bind (failsOnly_readCallOptions fun hhost => h ?_) fun _ => .ok _
      obtain rfl : head = '(' := by
        have hnot := List.head?_dropWhile_not (· != '(') cs
        rw [hbody] at hnot
        simpa using hnot
      refine ⟨cs.takeWhile (· != '('), body, name, texts, rest, ops, ?_, ?_, hopening, hsplit,
        hops, hhost⟩
      · rw [← hbody, List.takeWhile_append_dropWhile]
      · intro hmem
        exact absurd (List.mem_takeWhile_imp hmem) (by decide)

/-- Reading a site ends with a site or a code, unless the line ends too early. -/
lemma parse_answers (h : ¬ Overruns line.toList) : Answers (Site.parse line) := by
  unfold Site.parse
  cases hread : Site.read line.toList with
  | ok s => exact .inl ⟨s, rfl⟩
  | error e =>
    obtain ⟨d, habort, hd⟩ : HasCode line e := failsOnly_read h e hread
    exact .inr ⟨d, congrArg Except.error habort, hd⟩

lemma Overruns.parse_eq (h : Overruns line.toList) :
    Site.parse line = .error (.crash .outOfBounds) := by
  rw [Site.parse, h.read_eq]
  rfl

end Site

/-! ## Statements -/

namespace Statement

/-- A line ends too early, and all lines in front of it are skipped or read. -/
inductive LinesOverrun : List (List Char) → Prop
  | here {line : List Char} {rest : List (List Char)}
    (hsite : isSkipped (Text.trimList line) = false)
    (hoverruns : Site.Overruns (Text.trimList line)) : LinesOverrun (line :: rest)
  | skipped {line : List Char} {rest : List (List Char)}
    (hskipped : isSkipped (Text.trimList line) = true) (hrest : LinesOverrun rest) :
    LinesOverrun (line :: rest)
  | read {line : List Char} {rest : List (List Char)} {site : Site}
    (hread : Site.read (Text.trimList line) = .ok site) (hrest : LinesOverrun rest) :
    LinesOverrun (line :: rest)

/-- A line of the text ends too early, and it is the first line that is not read. -/
def Overruns (text : List Char) : Prop :=
  LinesOverrun (Text.splitAtAll (· = '\n') text)

lemma LinesOverrun.exists_growing {lines : List (List Char)} (h : LinesOverrun lines) :
    ∃ line ∈ lines, ∃ c ∈ line, c ∈ Text.growing := by
  induction h with
  | here hsite hoverruns =>
    obtain ⟨c, hc, hgrowing⟩ := hoverruns.exists_growing
    exact ⟨_, List.mem_cons_self, c, Text.mem_of_mem_trimList hc, hgrowing⟩
  | skipped hskipped hrest ih =>
    obtain ⟨line, hline, hgrowing⟩ := ih
    exact ⟨line, List.mem_cons_of_mem _ hline, hgrowing⟩
  | read hread hrest ih =>
    obtain ⟨line, hline, hgrowing⟩ := ih
    exact ⟨line, List.mem_cons_of_mem _ hline, hgrowing⟩

lemma Overruns.exists_growing {text : List Char} (h : Overruns text) :
    ∃ c ∈ text, c ∈ Text.growing := by
  obtain ⟨line, hline, c, hc, hgrowing⟩ := LinesOverrun.exists_growing h
  exact ⟨c, (Text.mem_of_mem_splitAtAll hline hc).1, hgrowing⟩

variable {name : String} {number : Nat} {line : List Char} {rest lines : List (List Char)}

lemma readLines_cons_of_isSkipped (h : isSkipped (Text.trimList line) = true) :
    readLines name number (line :: rest) = readLines name (number + 1) rest := by
  rw [readLines]
  exact if_pos h

lemma readLines_cons_of_not_isSkipped (h : isSkipped (Text.trimList line) = false) :
    readLines name number (line :: rest) =
      ((Site.parse (String.ofList (Text.trimList line))).mapError (abortAt name number) >>= fun s =>
        (readLines name (number + 1) rest).map (s :: ·)) := by
  rw [readLines]
  exact if_neg (by rw [h]; exact Bool.false_ne_true)

lemma LinesOverrun.readLines_eq (h : LinesOverrun lines) :
    readLines name number lines = .error (.crash .outOfBounds) := by
  induction h generalizing number with
  | here hsite hoverruns =>
    rw [readLines_cons_of_not_isSkipped hsite, Site.Overruns.parse_eq]
    · rfl
    · rwa [String.toList_ofList]
  | skipped hskipped hrest ih => rw [readLines_cons_of_isSkipped hskipped, ih]
  | @read line rest site hread hrest ih =>
    have hparse : Site.parse (String.ofList (Text.trimList line)) = .ok site :=
      Site.parse_eq_ok_iff.mpr (by rwa [String.toList_ofList])
    cases hskipped : isSkipped (Text.trimList line) with
    | true => rw [readLines_cons_of_isSkipped hskipped, ih]
    | false =>
      rw [readLines_cons_of_not_isSkipped hskipped, hparse, ih]
      rfl

/-- Lines are answered one after the other. -/
lemma readLines_answers (h : ¬ LinesOverrun lines) : Answers (readLines name number lines) := by
  induction lines generalizing number with
  | nil => exact .inl ⟨[], rfl⟩
  | cons line rest ih =>
    cases hskipped : isSkipped (Text.trimList line) with
    | true =>
      rw [readLines_cons_of_isSkipped hskipped]
      exact ih fun hrest => h (.skipped hskipped hrest)
    | false =>
      rw [readLines_cons_of_not_isSkipped hskipped]
      have hsite : ¬ Site.Overruns (String.ofList (Text.trimList line)).toList := by
        rw [String.toList_ofList]
        exact fun hoverruns => h (.here hskipped hoverruns)
      rcases Site.parse_answers hsite with ⟨site, hparse⟩ | ⟨d, hparse, hd⟩
      · have hread := Site.parse_eq_ok_iff.mp hparse
        rw [String.toList_ofList] at hread
        rw [hparse]
        have hrest : Answers (readLines name (number + 1) rest) :=
          ih fun hrest => h (.read hread hrest)
        rcases hrest with ⟨sites, hsites⟩ | ⟨d, hsites, hd⟩
        · exact .inl ⟨site :: sites, by rw [hsites]; rfl⟩
        · exact .inr ⟨d, by rw [hsites]; rfl, hd⟩
      · rw [hparse]
        exact .inr ⟨_, rfl, hd.inContext _⟩

lemma parse_answers {text : String} (h : ¬ Overruns text.toList) :
    Answers (Statement.parse name text) := by
  have hlines : Answers (readLines name 1 (Text.splitAtAll (· = '\n') text.toList)) :=
    readLines_answers h
  rcases hlines with ⟨sites, hsites⟩ | ⟨d, hsites, hd⟩
  · exact .inl ⟨⟨name, sites⟩, by rw [Statement.parse, hsites]; rfl⟩
  · exact .inr ⟨d, by rw [Statement.parse, hsites]; rfl, hd⟩

lemma Overruns.parse_eq {text : String} (h : Overruns text.toList) :
    Statement.parse name text = .error (.crash .outOfBounds) := by
  rw [Statement.parse, LinesOverrun.readLines_eq h]
  rfl

end Statement

/-! ## Totality -/

lemma Answers.ne_crash {α : Type} {x : Except Abort α} (h : Answers x) (c : Crash) :
    x ≠ .error (.crash c) := by
  rcases h with ⟨a, rfl⟩ | ⟨d, rfl, -⟩
  · exact nofun
  · exact nofun

/-- The places at which readers cut a text lie within the text: behind the mark of a NULL, behind a
constant, and behind the operands. -/
structure CutsInside (cs : List Char) : Prop where
  null : (cs.take 6).map Text.upperChar = "NULL::".toList →
    Text.cutAt 6 cs = .between (cs.take 6) (cs.drop 6)
  constant : ∀ r, Operand.readConstant? cs = some r →
    ∃ before, Text.cutAt (Text.bytesOf (before ++ ['\''])).length cs =
      .between (before ++ ['\'']) r.2
  operands : ∀ r, Site.segments? 1 false cs = some r →
    Text.cutAt (Text.bytesOf ([','].intercalate r.1 ++ [')'])).length cs =
      .between ([','].intercalate r.1 ++ [')']) r.2

lemma cutsInside (cs : List Char) : CutsInside cs where
  null h := Operand.cutAt_of_null h
  constant r h := by
    obtain ⟨before, hcs⟩ := Operand.exists_of_readConstant? h
    refine ⟨before, ?_⟩
    have hcut := Text.cutAt_length_bytesOf (before ++ ['\'']) r.2
    rwa [List.append_assoc, List.singleton_append, ← hcs] at hcut
  operands r h := by
    have hcut := Text.cutAt_length_bytesOf ([','].intercalate r.1 ++ [')']) r.2
    rwa [List.append_assoc, List.singleton_append, ← Site.eq_of_segments? h] at hcut

/-- Reading a site or a statement ends with it or with a code, exactly if no call ends before the
keyword of its host signature does in lower case. Reading crashes in no other way, and only if one
of two letters occurs. -/
theorem reading_answers_iff_not_overruns (line name text : String) :
    (Answers (Site.parse line) ↔ ¬ Site.Overruns line.toList) ∧
      (∀ c, Site.parse line = .error (.crash c) ↔
        c = .outOfBounds ∧ Site.Overruns line.toList) ∧
      (Answers (Statement.parse name text) ↔ ¬ Statement.Overruns text.toList) ∧
      (∀ c, Statement.parse name text = .error (.crash c) ↔
        c = .outOfBounds ∧ Statement.Overruns text.toList) ∧
      (Site.Overruns line.toList → ∃ c ∈ line.toList, c ∈ Text.growing) ∧
      (Statement.Overruns text.toList → ∃ c ∈ text.toList, c ∈ Text.growing) ∧
      CutsInside line.toList := by
  have hexact : ∀ {α : Type} {x : Except Abort α} {p : Prop},
      (¬ p → Answers x) → (p → x = .error (.crash .outOfBounds)) →
        (Answers x ↔ ¬ p) ∧ ∀ c, x = .error (.crash c) ↔ c = .outOfBounds ∧ p := by
    intro α x p hanswers hcrash
    refine ⟨⟨fun h hp => h.ne_crash _ (hcrash hp), hanswers⟩, fun c => ⟨fun h => ?_, ?_⟩⟩
    · by_cases hp : p
      · rw [hcrash hp] at h
        cases h
        exact ⟨rfl, hp⟩
      · exact absurd h ((hanswers hp).ne_crash c)
    · rintro ⟨rfl, hp⟩
      exact hcrash hp
  obtain ⟨hsite, hsiteCrash⟩ := hexact (x := Site.parse line) Site.parse_answers
    Site.Overruns.parse_eq
  obtain ⟨hstatement, hstatementCrash⟩ := hexact (x := Statement.parse name text)
    Statement.parse_answers Statement.Overruns.parse_eq
  exact ⟨hsite, hsiteCrash, hstatement, hstatementCrash, Site.Overruns.exists_growing,
    Statement.Overruns.exists_growing, cutsInside line.toList⟩

/-- The text behind the operands has 13 bytes, and its lower case 14. -/
lemma Site.overruns_stroke : Site.Overruns "call f() Ⱥ signature".toList := by
  refine ⟨"call f".toList, ") Ⱥ signature".toList, "f", [], " Ⱥ signature".toList, [],
    by decide, by decide, rfl, by decide, rfl, ?_⟩
  exact Site.hostOverruns_iff.mpr ⟨5, by decide +kernel, by decide +kernel⟩

/-- The first line of a statement is a site, and reading the second one crashes. -/
theorem reading_answers_iff_not_overruns_second_line :
    Statement.Overruns "call f()\ncall f() Ⱥ signature".toList ∧
      Statement.parse "q" "call f()\ncall f() Ⱥ signature" = .error (.crash .outOfBounds) := by
  have hsplit : Text.splitAtAll (· = '\n') "call f()\ncall f() Ⱥ signature".toList =
      ["call f()".toList, "call f() Ⱥ signature".toList] := by decide
  have hfirst : Site.read (Text.trimList "call f()".toList) = .ok (.call "f" [] {} none) :=
    Except.eq_ok_of_toOption (by decide +kernel)
  have htrim : Text.trimList "call f() Ⱥ signature".toList = "call f() Ⱥ signature".toList := by
    decide
  have hlines : Statement.Overruns "call f()\ncall f() Ⱥ signature".toList := by
    rw [Statement.Overruns, hsplit]
    refine .read hfirst (.here (by decide) ?_)
    rw [htrim]
    exact Site.overruns_stroke
  have hanswers := reading_answers_iff_not_overruns "" "q" "call f()\ncall f() Ⱥ signature"
  exact ⟨hlines, (hanswers.2.2.2.1 .outOfBounds).mpr ⟨rfl, hlines⟩⟩

/-- Not every text is answered. -/
theorem site_parse_crashes_behind_stroke :
    Site.parse "call f() Ⱥ signature" = .error (.crash .outOfBounds) ∧
      ¬ Answers (Site.parse "call f() Ⱥ signature") := by
  have hcrash := Site.Overruns.parse_eq Site.overruns_stroke
  exact ⟨hcrash, fun h => h.ne_crash _ hcrash⟩

end SqlTyping
