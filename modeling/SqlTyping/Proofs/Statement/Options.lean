import SqlTyping.Proofs.Conversion
import SqlTyping.Proofs.Host.Signature
import SqlTyping.Statement.Reader

/-!
# Options of a call are read back

The options that spell what a call needs of the result, and the host signature that may follow them,
are read as these (`readCallOptions_render`).

The options are searched for the keyword of the host signature in lower case, and the place that is
found is counted in bytes. In a spelling nothing in front of the keyword holds it, and every
character there is a single byte in either case, so that the place is the right one.
-/

namespace SqlTyping

/-- Every family is found under its identifier. -/
lemma Family.ofName?_name (f : Family) : ofName? f.name = some f := by
  revert f
  decide +kernel

namespace Site

/-! ## Places of words -/

section Places

variable {word before after : List Char}

/-- A word without spaces does not reach over a space. -/
lemma byteOffset?_append_space (hne : word ≠ []) (hspace : ' ' ∉ word)
    (hbefore : byteOffset? word before = none) (hsize : ∀ c ∈ before, c.utf8Size = 1) :
    byteOffset? word (before ++ ' ' :: after) =
      (byteOffset? word after).map (before.length + 1 + ·) := by
  induction before with
  | nil =>
    obtain ⟨c, cs, rfl⟩ := List.exists_cons_of_ne_nil hne
    have hc : c ≠ ' ' := fun h => hspace (h ▸ List.mem_cons_self)
    rw [List.nil_append, byteOffset?, if_neg]
    · rfl
    · simp [List.isPrefixOf, hc]
  | cons c before ih =>
    rw [List.forall_mem_cons] at hsize
    rw [byteOffset?] at hbefore
    split at hbefore
    · cases hbefore
    next hfirst =>
    rw [Option.map_eq_none_iff] at hbefore
    -- A word at the start would have to end before the space.
    have hnot : ¬ word.isPrefixOf (c :: before ++ ' ' :: after) = true := by
      intro h
      rw [List.isPrefixOf_iff_prefix] at h hfirst
      rcases List.prefix_or_prefix_of_prefix h (List.prefix_append (c :: before) _) with
        hshort | ⟨tail, hlong⟩
      · exact hfirst hshort
      · cases tail with
        | nil => exact hfirst (by simp [← hlong])
        | cons d tail =>
          obtain ⟨rest, hrest⟩ := h
          rw [← hlong, List.append_assoc, List.append_cancel_left_eq] at hrest
          cases hrest
          exact hspace (hlong ▸ List.mem_append_right _ List.mem_cons_self)
    rw [List.cons_append] at hnot ⊢
    rw [byteOffset?, if_neg hnot, ih hbefore hsize.2, Option.map_map, hsize.1, List.length_cons]
    congr 1
    funext n
    simp only [Function.comp_apply]
    omega

/-- Characters of one byte each are cut off by their number. -/
lemma cutAt_append (hsize : ∀ c ∈ before, c.utf8Size = 1) :
    Text.cutAt before.length (before ++ after) = .between before after := by
  induction before with
  | nil => rw [List.length_nil, Text.cutAt, List.nil_append]
  | cons c before ih =>
    rw [List.forall_mem_cons] at hsize
    rw [List.length_cons, List.cons_append, Text.cutAt, hsize.1, if_pos (by omega),
      Nat.add_sub_cancel, ih hsize.2]
    rfl

end Places

/-! ## Words of options -/

/-- A word without white space, written in single bytes, in which the keyword of the host signature
is not found. -/
def IsOptionWord (w : List Char) : Prop :=
  w ≠ [] ∧ (∀ c ∈ w, Text.isSpace c = false ∧ c.utf8Size = 1 ∧ (Text.lowerChar c).utf8Size = 1) ∧
    byteOffset? hostKeyword.toList (w.map Text.lowerChar) = none

instance (w : List Char) : Decidable (IsOptionWord w) :=
  decidable_of_iff (w ≠ [] ∧ w.all (fun c => !Text.isSpace c && c.utf8Size == 1 &&
    (Text.lowerChar c).utf8Size == 1) = true ∧
      byteOffset? hostKeyword.toList (w.map Text.lowerChar) = none)
    (by simp [IsOptionWord, and_assoc])

/-- The words of the options that spell what a context needs. -/
def contextWords (c : ReturnContext) : List (List Char) :=
  (if c.wantsValue then ["expr".toList] else []) ++
    (c.desired.toList.flatMap fun f => ["returns".toList, f.name.toList]) ++
    (if c.nonNull then ["nonnull".toList] else [])

/-- The text of words, each with a space in front. -/
def spaced (words : List (List Char)) : List Char :=
  words.flatMap (' ' :: ·)

lemma spaced_cons (w : List Char) (words : List (List Char)) :
    spaced (w :: words) = ' ' :: (w ++ spaced words) := rfl

lemma toList_renderContext (c : ReturnContext) :
    (renderContext c).toList = spaced (contextWords c) := by
  rcases c with ⟨_ | _, _ | f, _ | _⟩ <;> simp [renderContext, contextWords, spaced]

lemma isOptionWord_of_mem {c : ReturnContext} {w : List Char} (h : w ∈ contextWords c) :
    IsOptionWord w := by
  have hexpr : IsOptionWord "expr".toList := by decide
  have hreturns : IsOptionWord "returns".toList := by decide
  have hfamily : ∀ f : Family, IsOptionWord f.name.toList := by decide
  have hnonnull : IsOptionWord "nonnull".toList := by decide
  rcases c with ⟨_ | _, _ | f, _ | _⟩ <;> simp [contextWords] at h <;> grind

/-- The words are found again, also in front of more white space. -/
lemma wordList_spaced {words : List (List Char)} (hwords : ∀ w ∈ words, IsOptionWord w)
    {tail : List Char} (htail : ∀ c ∈ tail, Text.isSpace c = true) :
    Text.wordList (spaced words ++ tail) = words := by
  induction words with
  | nil =>
    induction tail with
    | nil => rfl
    | cons c tail ih =>
      rw [List.forall_mem_cons] at htail
      exact (Text.wordList_cons_of_isSpace htail.1).trans (ih htail.2)
  | cons w words ih =>
    rw [List.forall_mem_cons] at hwords
    have hspace : ∀ c ∈ w, Text.isSpace c = false := fun c hc => (hwords.1.2.1 c hc).1
    rw [spaced_cons, List.cons_append, Text.wordList_cons_of_isSpace rfl, List.append_assoc]
    have hfirst : ∀ c ∈ (spaced words ++ tail).head?, Text.isSpace c = true := by
      intro c hc
      cases words with
      | nil => exact htail c (List.mem_of_head? hc)
      | cons v words =>
        cases hc
        rfl
    have ih := ih hwords.2
    cases hrest : spaced words ++ tail with
    | nil =>
      rw [hrest] at ih
      rw [List.append_nil, Text.wordList_of_forall hwords.1.1 hspace, ← ih]
      rfl
    | cons c rest =>
      have hc : Text.isSpace c = true := hfirst c (hrest ▸ rfl)
      rw [hrest, Text.wordList_cons_of_isSpace hc] at ih
      rw [Text.wordList_append_cons hwords.1.1 hspace hc, ih]

/-- The keyword of the host signature is not found among the options. -/
lemma byteOffset?_spaced {words : List (List Char)} (hwords : ∀ w ∈ words, IsOptionWord w) :
    byteOffset? hostKeyword.toList ((spaced words).map Text.lowerChar) = none := by
  have hspace : ∀ rest : List Char, byteOffset? hostKeyword.toList (' ' :: rest) =
      (byteOffset? hostKeyword.toList rest).map (1 + ·) := fun rest => rfl
  induction words with
  | nil => rfl
  | cons w words ih =>
    rw [List.forall_mem_cons] at hwords
    have hlower : Text.lowerChar ' ' = ' ' := by decide
    rw [spaced_cons, List.map_cons, List.map_append, hlower, hspace]
    have ih := ih hwords.2
    cases words with
    | nil => simp [spaced, hwords.1.2.2]
    | cons v words =>
      rw [spaced_cons, List.map_cons, hlower, hspace, Option.map_eq_none_iff] at ih
      rw [spaced_cons, List.map_cons, hlower, byteOffset?_append_space (by decide) (by decide)
        hwords.1.2.2, ih]
      · rfl
      · intro c hc
        obtain ⟨d, hd, rfl⟩ := List.mem_map.mp hc
        exact (hwords.1.2.1 d hd).2.2

/-- The options are written in single bytes, also in lower case. -/
lemma utf8Size_of_mem_spaced {words : List (List Char)} (hwords : ∀ w ∈ words, IsOptionWord w)
    {c : Char} (hc : c ∈ spaced words) :
    c.utf8Size = 1 ∧ (Text.lowerChar c).utf8Size = 1 := by
  obtain ⟨w, hw, hc⟩ := List.mem_flatMap.mp hc
  rcases List.mem_cons.mp hc with rfl | hc
  · decide
  · exact ((hwords w hw).2.1 c hc).2

/-! ## Reading the options of a call -/

lemma pieceWords_chars (cs : List Char) :
    pieceWords (cs.map .char) = (Text.wordList cs).map (·.map .char) := by
  rw [pieceWords, Text.splitAtAll_map, List.filter_map]
  congr 1
  refine List.filter_congr fun w _ => ?_
  cases w <;> rfl

lemma mapM_char? (cs : List Char) : (cs.map Text.Piece.char).mapM Text.Piece.char? = some cs := by
  induction cs with
  | nil => rfl
  | cons c cs ih =>
    rw [List.map_cons, List.mapM_cons, ih]
    rfl

lemma keyword?_chars (cs : List Char) :
    keyword? (cs.map .char) = some (String.ofList (cs.map Text.lowerChar)) := by
  rw [keyword?, mapM_char?]
  rfl

lemma wordFamily?_name (f : Family) : wordFamily? (f.name.toList.map .char) = some f := by
  rw [wordFamily?, mapM_char?, Option.bind_some, String.ofList_toList, f.ofName?_name]

section

variable (options : List Text.Piece) (c : ReturnContext) (rest : List (List Text.Piece))

lemma readOptions_expr : readOptions options c ("expr".toList.map .char :: rest) =
    readOptions options { c with wantsValue := true } rest := by
  cases rest <;> rfl

lemma readOptions_nonnull : readOptions options c ("nonnull".toList.map .char :: rest) =
    readOptions options { c with nonNull := true } rest := by
  cases rest <;> rfl

lemma readOptions_returns (f : Family) :
    readOptions options c ("returns".toList.map .char :: f.name.toList.map .char :: rest) =
      readOptions options { c with desired := some f, wantsValue := true } rest := by
  have hword : keyword? ("returns".toList.map .char) = some "returns" := keyword?_chars _
  rw [readOptions, hword, wordFamily?_name]
  rfl

end

/-- A context as the options that spell it say: asking for a family is asking for a value. -/
def implied (c : ReturnContext) : ReturnContext :=
  { c with wantsValue := c.wantsValue || c.desired.isSome }

lemma implied_eq_self {c : ReturnContext} (hc : c.desired.isSome → c.wantsValue) :
    implied c = c := by
  rcases c with ⟨_ | _, _ | f, nonNull⟩
  · rfl
  · cases hc rfl
  · rfl
  · rfl

/-- The options that spell a context are read as the context. -/
lemma readOptions_contextWords (options : List Text.Piece) (c : ReturnContext) :
    readOptions options {} ((contextWords c).map (·.map .char)) = .ok (implied c) := by
  rcases c with ⟨wantsValue, desired, nonNull⟩
  -- What is asked for besides a value.
  have hlast : ∀ c : ReturnContext, readOptions options c
      ((if nonNull then ["nonnull".toList] else []).map (·.map .char)) =
        .ok { c with nonNull := c.nonNull || nonNull } := by
    intro c
    cases nonNull with
    | false => simp [readOptions]
    | true =>
      refine (readOptions_nonnull options c []).trans ?_
      simp [readOptions]
  -- The family that is asked for, in front of that.
  have hfamily : ∀ c : ReturnContext, c.desired = none → c.nonNull = false → readOptions options c
      ((desired.toList.flatMap (fun f => ["returns".toList, f.name.toList]) ++
        (if nonNull then ["nonnull".toList] else [])).map (·.map .char)) =
          .ok ⟨c.wantsValue || desired.isSome, desired, nonNull⟩ := by
    rintro ⟨wantsValue, _, _⟩ rfl rfl
    cases desired with
    | none =>
      refine (hlast _).trans ?_
      simp
    | some f =>
      refine ((readOptions_returns options _ _ f).trans (hlast _)).trans ?_
      simp
  rw [contextWords, List.append_assoc]
  cases wantsValue with
  | false => exact hfamily {} rfl rfl
  | true => exact (readOptions_expr options {} _).trans (hfamily _ rfl rfl)

/-- A host signature is found behind options in single bytes that do not hold its keyword. -/
lemma readCallOptions_host {cs source : List Char}
    (hsize : ∀ d ∈ cs, d.utf8Size = 1 ∧ (Text.lowerChar d).utf8Size = 1)
    (hkeyword : byteOffset? hostKeyword.toList (cs.map Text.lowerChar) = none)
    {h : HostSignature} (hsource : HostSignature.read source = .ok h) :
    readCallOptions (cs ++ (" signature ".toList ++ source)) =
      (readContext ((cs ++ [' ']).map .char)).map fun c => (c, some h) := by
  have htext : cs ++ (" signature ".toList ++ source) =
      cs ++ ' ' :: (hostKeyword.toList ++ ' ' :: source) := by
    simp [hostKeyword]
  have hlower : ∀ d ∈ cs.map Text.lowerChar, d.utf8Size = 1 := by
    intro d hd
    obtain ⟨e, he, rfl⟩ := List.mem_map.mp hd
    exact (hsize e he).2
  have hoffset : byteOffset? hostKeyword.toList
      ((cs ++ ' ' :: (hostKeyword.toList ++ ' ' :: source)).map Text.lowerChar) =
        some (cs.length + 1) := by
    rw [List.map_append, List.map_cons]
    refine (byteOffset?_append_space (by decide) (by decide) hkeyword hlower).trans ?_
    rw [List.map_append, List.length_map]
    rfl
  -- The text is cut behind the space in front of the keyword, and behind the keyword.
  have hcut : ∀ before after : List Char, (∀ d ∈ before, d.utf8Size = 1) →
      Text.cutAt (cs.length + before.length) (cs ++ (before ++ after)) =
        .between (cs ++ before) after := by
    intro before after hbefore
    rw [← List.length_append, ← List.append_assoc]
    exact cutAt_append (List.forall_mem_append.mpr ⟨fun d hd => (hsize d hd).1, hbefore⟩)
  have hone : ∀ d ∈ ' ' :: hostKeyword.toList, d.utf8Size = 1 := by
    have hall : (' ' :: hostKeyword.toList).all (fun d => d.utf8Size == 1) = true := by decide
    simpa using hall
  have hspace := hcut [' '] (hostKeyword.toList ++ ' ' :: source) fun d hd =>
    hone d (List.mem_cons.mpr (Or.inl (List.mem_singleton.mp hd)))
  have hhost := hcut (' ' :: hostKeyword.toList) (' ' :: source) hone
  have hread : readHost (cs ++ ' ' :: (hostKeyword.toList ++ ' ' :: source))
      (cs.length + 1 + hostKeyword.length) = .ok h := by
    have hlength : cs.length + 1 + hostKeyword.length =
        cs.length + (' ' :: hostKeyword.toList).length := by
      rw [List.length_cons, String.length_toList]
      omega
    rw [readHost, hlength]
    simp only [List.cons_append] at hhost
    simp only [hhost, Text.trimList_cons_of_isSpace (show Text.isSpace ' ' = true from rfl),
      HostSignature.read_trimList, hsource]
    rfl
  have hbefore : piecesBefore (cs ++ ' ' :: (hostKeyword.toList ++ ' ' :: source))
      (cs.length + 1) = (cs ++ [' ']).map .char := by
    simp only [List.length_singleton, List.singleton_append] at hspace
    simp only [piecesBefore, hspace]
  rw [htext, readCallOptions, hoffset]
  simp only [hread, hbefore, Except.ok_bind]
  rfl

section Rendered

variable (c : ReturnContext)

lemma readContext_renderContext {tail : List Char} (htail : ∀ d ∈ tail, Text.isSpace d = true) :
    readContext (((renderContext c).toList ++ tail).map .char) = .ok (implied c) := by
  rw [toList_renderContext, readContext, pieceWords_chars,
    wordList_spaced (fun w => isOptionWord_of_mem) htail]
  exact readOptions_contextWords _ c

/-- Options without a host signature are read back. -/
lemma readCallOptions_renderContext :
    readCallOptions (renderContext c).toList = .ok (implied c, none) := by
  have hcontext := readContext_renderContext c (List.forall_mem_nil _)
  rw [List.append_nil] at hcontext
  have hkeyword : byteOffset? hostKeyword.toList ((renderContext c).toList.map Text.lowerChar) =
      none := by
    rw [toList_renderContext]
    exact byteOffset?_spaced fun w => isOptionWord_of_mem
  rw [readCallOptions, hkeyword]
  simp only [hcontext]
  rfl

/-- So are options in front of any text that spells a host signature. -/
lemma readCallOptions_renderContext_append {source : List Char} {h : HostSignature}
    (hsource : HostSignature.read source = .ok h) :
    readCallOptions ((renderContext c).toList ++ (" signature ".toList ++ source)) =
      .ok (implied c, some h) := by
  have hspace : ∀ d ∈ [' '], Text.isSpace d = true := List.forall_mem_singleton.mpr (by decide)
  have hcontext := readContext_renderContext c hspace
  rw [toList_renderContext] at hcontext ⊢
  rw [readCallOptions_host (fun d => utf8Size_of_mem_spaced fun w => isOptionWord_of_mem)
    (byteOffset?_spaced fun w => isOptionWord_of_mem) hsource, hcontext]
  rfl

end Rendered

/-- The options of a call are read back, with or without a host signature behind them. -/
lemma readCallOptions_render {c : ReturnContext} (hc : c.desired.isSome → c.wantsValue)
    (host : Option HostSignature) :
    readCallOptions ((renderContext c).toList ++
      ((host.map fun h => " signature " ++ h.render).getD "").toList) = .ok (c, host) := by
  cases host with
  | none =>
    rw [Option.map_none, Option.getD_none, String.toList_empty, List.append_nil,
      readCallOptions_renderContext, implied_eq_self hc]
  | some h =>
    rw [Option.map_some, Option.getD_some, String.toList_append,
      readCallOptions_renderContext_append c (HostSignature.read_render h), implied_eq_self hc]

end Site

end SqlTyping
