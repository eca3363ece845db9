import Mathlib.Data.List.SplitBy
import Reckoner.Proofs.Text.Blanks

/-!
# The words of a text

A text is its words, with white space around them and at least some between neighbours
(`isParted_words`), and in one way only (`IsParted.words_eq`). So the words hold all that is not
white space (`flatten_words`), each stands in the text in one piece (`IsParted.isInfix`), and putting
words together with single spaces parts what they make into just these (`isParted_unwords`).
-/

namespace Reckoner.Text

/-- A text that is not empty and has no white space in it. -/
structure IsWord (text : Text) : Prop where
  nonempty : text ≠ []
  visible : ∀ c ∈ text, isBlank c = false

theorem IsWord.isTrimmed {word : Text} (whole : IsWord word) : IsTrimmed word where
  starts := fun c first => whole.visible c (List.mem_of_mem_head? first)
  ends := fun c last => whole.visible c (List.mem_of_getLast? last)

/-- A text made of the given words: white space, then a word that more white space or the end
follows, and so on. -/
inductive IsParted : Text → List Text → Prop
  | blank {text : Text} (blank : isAllBlank text = true) : IsParted text []
  | word {front word rest : Text} {words : List Text} (before : isAllBlank front = true)
      (whole : IsWord word) (apart : ∀ c ∈ rest.head?, isBlank c = true)
      (others : IsParted rest words) : IsParted (front ++ (word ++ rest)) (word :: words)

/-- A text of one class in front of the other class is a run. -/
theorem blankRuns_append {run rest : Text} {blank : Bool} (nonempty : run ≠ [])
    (same : ∀ c ∈ run, isBlank c = blank) (apart : ∀ c ∈ rest.head?, isBlank c = !blank) :
    blankRuns (run ++ rest) = run :: blankRuns rest := by
  have one : blankRuns run = [run] := by
    apply List.splitBy_of_isChain nonempty
    apply List.Pairwise.isChain
    apply List.pairwise_of_forall_mem_list
    intro a first b second
    rw [same a first, same b second, beq_self_eq_true]
  rw [blankRuns, List.splitBy_append]
  · exact congrArg (· ++ blankRuns rest) one
  · intro a last b first
    rw [same a (List.mem_of_getLast? last), apart b first]
    exact Bool.beq_not_self blank

/-! ## Words -/

theorem words_nil : words [] = [] := rfl

theorem isAllBlank_takeWhile (text : Text) : isAllBlank (text.takeWhile isBlank) = true :=
  List.all_eq_true.mpr (fun _ member => List.mem_takeWhile_imp member)

/-- White space at the start is no word. -/
theorem words_trimStart (text : Text) : words (trimStart text) = words text := by
  have whole := List.takeWhile_append_dropWhile (p := isBlank) (l := text)
  by_cases flush : text.takeWhile isBlank = []
  · rw [flush, List.nil_append] at whole
    rw [trimStart, whole]
  · have runs := blankRuns_append flush (fun _ => List.mem_takeWhile_imp) (head?_trimStart text)
    rw [trimStart, whole] at runs
    rw [words, words, runs, trimStart,
      List.filter_cons_of_neg (by rw [isAllBlank_takeWhile]; exact Bool.false_ne_true)]

theorem trimStart_append {front rest : Text} (blank : isAllBlank front = true) :
    trimStart (front ++ rest) = trimStart rest := by
  rw [isAllBlank, List.all_eq_true] at blank
  exact List.dropWhile_append_of_pos blank

theorem words_blank_append {front : Text} (blank : isAllBlank front = true) (rest : Text) :
    words (front ++ rest) = words rest := by
  rw [← words_trimStart (front ++ rest), trimStart_append blank, words_trimStart]

theorem words_of_isAllBlank {text : Text} (blank : isAllBlank text = true) : words text = [] := by
  rw [← List.append_nil text, words_blank_append blank, words_nil]

theorem IsWord.isAllBlank {word : Text} (whole : IsWord word) : isAllBlank word = false := by
  cases word with
  | nil => exact absurd rfl whole.nonempty
  | cons c rest =>
      rw [Text.isAllBlank, List.all_cons, whole.visible c List.mem_cons_self, Bool.false_and]

theorem words_word_append {word rest : Text} (whole : IsWord word)
    (apart : ∀ c ∈ rest.head?, isBlank c = true) : words (word ++ rest) = word :: words rest := by
  rw [words, blankRuns_append whole.nonempty whole.visible apart,
    List.filter_cons_of_pos (by rw [whole.isAllBlank]; rfl), words]

/-- **There is one way to part a text into words.** -/
theorem IsParted.words_eq {text : Text} {list : List Text} (parted : IsParted text list) :
    words text = list := by
  induction parted with
  | blank blank => exact words_of_isAllBlank blank
  | word before whole apart others ih =>
      rw [words_blank_append before, words_word_append whole apart, ih]

theorem exists_isParted (text : Text) : ∃ list, IsParted text list := by
  induction size : text.length using Nat.strongRecOn generalizing text with
  | ind size ih =>
      subst size
      have begins := List.takeWhile_append_dropWhile (p := isBlank) (l := text)
      cases visible : trimStart text with
      | nil =>
          rw [trimStart] at visible
          rw [visible, List.append_nil] at begins
          exact ⟨[], .blank (begins ▸ isAllBlank_takeWhile text)⟩
      | cons c others =>
          -- The first word ends where the next white space starts.
          let isVisible (c : Char) : Bool := !isBlank c
          have first := head?_trimStart text c (by rw [visible]; rfl)
          have shorter : (others.dropWhile isVisible).length < text.length := by
            have trimmed := (List.dropWhile_suffix (p := isBlank) (l := text)).length_le
            rw [trimStart] at visible
            rw [visible, List.length_cons] at trimmed
            have cut := (List.dropWhile_suffix (p := isVisible) (l := others)).length_le
            omega
          obtain ⟨list, parted⟩ := ih _ shorter _ rfl
          have whole : IsWord (c :: others.takeWhile isVisible) := by
            refine ⟨List.cons_ne_nil _ _, ?_⟩
            intro d member
            rcases List.mem_cons.mp member with rfl | later
            · exact first
            · simpa [isVisible] using List.mem_takeWhile_imp later
          have apart : ∀ d ∈ (others.dropWhile isVisible).head?, isBlank d = true := by
            intro d stop
            have stopped := List.head?_dropWhile_not isVisible others
            rw [stop] at stopped
            simpa [isVisible] using stopped
          have made := IsParted.word (isAllBlank_takeWhile text) whole apart parted
          rw [List.cons_append, List.takeWhile_append_dropWhile, ← visible, trimStart, begins]
            at made
          exact ⟨_, made⟩

/-- A text is made of its words. -/
theorem isParted_words (text : Text) : IsParted text (words text) := by
  obtain ⟨list, parted⟩ := exists_isParted text
  rw [parted.words_eq]
  exact parted

/-! ## What the words hold -/

theorem squeeze_append (first second : Text) :
    squeeze (first ++ second) = squeeze first ++ squeeze second :=
  List.filter_append first second

theorem squeeze_of_isAllBlank {text : Text} (blank : isAllBlank text = true) :
    squeeze text = [] := by
  rw [isAllBlank, List.all_eq_true] at blank
  refine List.filter_eq_nil_iff.mpr (fun c member => ?_)
  rw [blank c member]
  exact Bool.false_ne_true

theorem IsWord.squeeze {word : Text} (whole : IsWord word) : squeeze word = word := by
  refine List.filter_eq_self.mpr (fun c member => ?_)
  rw [whole.visible c member]
  rfl

theorem IsParted.flatten {text : Text} {list : List Text} (parted : IsParted text list) :
    list.flatten = squeeze text := by
  induction parted with
  | blank blank => exact (squeeze_of_isAllBlank blank).symm
  | word before whole apart others ih =>
      rw [squeeze_append, squeeze_append, squeeze_of_isAllBlank before, whole.squeeze,
        List.flatten_cons, ih, List.nil_append]

theorem IsParted.isWord {text : Text} {list : List Text} (parted : IsParted text list) :
    ∀ word ∈ list, IsWord word := by
  induction parted with
  | blank blank => exact List.forall_mem_nil _
  | word before whole apart others ih => exact List.forall_mem_cons.mpr ⟨whole, ih⟩

theorem IsParted.isInfix {text : Text} {list : List Text} (parted : IsParted text list) :
    ∀ word ∈ list, word <:+: text := by
  induction parted with
  | blank blank => exact List.forall_mem_nil _
  | @word front word rest words before whole apart others ih =>
      refine List.forall_mem_cons.mpr ⟨?_, fun later member => ?_⟩
      · exact ⟨front, rest, List.append_assoc front word rest⟩
      · exact (ih later member).trans ((List.suffix_append word rest).isInfix.trans
          (List.suffix_append front (word ++ rest)).isInfix)

/-- Nothing but white space is left out of the words. -/
theorem flatten_words (text : Text) : (words text).flatten = squeeze text :=
  (isParted_words text).flatten

theorem isWord_of_mem_words {text word : Text} (member : word ∈ words text) : IsWord word :=
  (isParted_words text).isWord word member

/-! ## Words put together -/

theorem unwords_cons_cons (first second : Text) (rest : List Text) :
    unwords (first :: second :: rest) = first ++ ' ' :: unwords (second :: rest) := by
  rw [unwords, join, List.append_assoc]
  rfl

theorem unwords_cons (first : Text) {rest : List Text} (proper : rest ≠ []) :
    unwords (first :: rest) = first ++ ' ' :: unwords rest := by
  cases rest with
  | nil => exact absurd rfl proper
  | cons second others => exact unwords_cons_cons first second others

theorem IsParted.cons {c : Char} {text : Text} {list : List Text} (blank : isBlank c = true)
    (parted : IsParted text list) : IsParted (c :: text) list := by
  cases parted with
  | blank all => exact .blank (by rw [isAllBlank, List.all_cons, blank]; exact all)
  | @word front _ _ _ before whole apart others =>
      have wider : isAllBlank (c :: front) = true := by
        rw [isAllBlank, List.all_cons, blank]
        exact before
      exact .word wider whole apart others

theorem isParted_unwords {list : List Text} (whole : ∀ word ∈ list, IsWord word) :
    IsParted (unwords list) list := by
  induction list with
  | nil => exact .blank rfl
  | cons first rest ih =>
      have others := ih (fun word member => whole word (List.mem_cons_of_mem first member))
      cases rest with
      | nil =>
          have alone : IsParted ([] ++ (first ++ [])) [first] :=
            .word rfl (whole first List.mem_cons_self) (fun _ space => nomatch space) others
          rwa [List.nil_append, List.append_nil] at alone
      | cons second later =>
          rw [unwords_cons_cons, ← List.nil_append (first ++ _)]
          refine .word rfl (whole first List.mem_cons_self) ?_ (others.cons (by decide))
          intro c space
          cases space
          decide

theorem squeeze_unwords {list : List Text} (whole : ∀ word ∈ list, IsWord word) :
    squeeze (unwords list) = list.flatten := (isParted_unwords whole).flatten.symm

end Reckoner.Text
