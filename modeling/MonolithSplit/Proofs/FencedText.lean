import Mathlib
import MonolithSplit.Proposal.Recommendation

/-!
# Reading a recommendation out of fenced or padded text

A generator may answer with the JSON text of its recommendation padded with white space, or
wrapped in one Markdown code fence: three backticks, an info string on the same line, the text on
the next lines, and three closing backticks. `unfence` removes both, so reading the answer gives
the recommendation back whenever reading its JSON text alone does (`read_padded_or_fenced`). This
holds for the compact and the pretty layout, whatever the strings inside: backticks in a name or a
functionality are left alone, since the fence is cut at the last three backticks, and these are
the closing ones.

What the argument needs of the JSON text is only that it starts with `{` and ends with `}`
(`Value.compact_object`, `Value.pretty_object`): its ends are neither white space nor a
backtick, so trimming stops at them, it cannot be taken for a fence, and after the opening line of
a fence nothing but the closing backticks follows it.
-/

namespace MonolithSplit.Proposal

open MonolithSplit.Json MonolithSplit.Text

/-! ## Trimming white space -/

section Trim

variable {p q t : List Char}

/-- A text is *tight* when it neither starts nor ends with white space. -/
def Tight (t : List Char) : Prop :=
  (∀ c ∈ t.head?, isWhite c = false) ∧ ∀ c ∈ t.reverse.head?, isWhite c = false

theorem dropWhile_white_of_tight (hp : ∀ c ∈ p, isWhite c = true)
    (ht : ∀ c ∈ t.head?, isWhite c = false) : (p ++ t).dropWhile isWhite = t := by
  rw [List.dropWhile_append_of_pos hp]
  cases t with
  | nil => rfl
  | cons c t => exact List.dropWhile_cons_of_neg (by simpa using ht c rfl)

/-- Trimming white space padding off a tight text gives the text back. -/
theorem trimWhite_pad (hp : ∀ c ∈ p, isWhite c = true) (hq : ∀ c ∈ q, isWhite c = true)
    (ht : Tight t) : trimWhite (p ++ t ++ q) = t := by
  cases t with
  | nil =>
      -- padding alone is all white space
      have hall : (p ++ q).dropWhile isWhite = [] := by
        rw [List.dropWhile_eq_nil_iff]
        intro c hc
        exact (List.mem_append.mp hc).elim (hp c) (hq c)
      simp [trimWhite, hall]
  | cons c t =>
      have hfront : (p ++ c :: t ++ q).dropWhile isWhite = c :: t ++ q := by
        rw [List.append_assoc]
        exact dropWhile_white_of_tight hp (by simpa using ht.1)
      -- the end is trimmed as the front of the reversed text
      have hback : (q.reverse ++ (c :: t).reverse).dropWhile isWhite = (c :: t).reverse :=
        dropWhile_white_of_tight (by simpa using hq) ht.2
      rw [trimWhite, hfront, List.reverse_append, hback, List.reverse_reverse]

end Trim

/-! ## The last fence -/

theorem lastFenceFrom_append_fence (xs : List Char) (i : Nat) (found : Option Nat) :
    lastFenceFrom i (xs ++ fence) found = some (i + xs.length) := by
  induction xs generalizing i found with
  | nil => simp [lastFenceFrom, startsWithFence, fence]
  | cons c xs ih =>
      rw [List.cons_append, lastFenceFrom, ih]
      simp only [List.length_cons, Option.some.injEq]
      omega

theorem lastFence_append_fence (xs : List Char) : lastFence (xs ++ fence) = some xs.length := by
  rw [lastFence, lastFenceFrom_append_fence, Nat.zero_add]

theorem idxOf?_newline {xs rest : List Char} (h : '\n' ∉ xs) :
    (xs ++ '\n' :: rest).idxOf? '\n' = some xs.length := by
  induction xs with
  | nil => simp [List.idxOf?_cons]
  | cons c xs ih =>
      have hc : c ≠ '\n' := fun hc => h (by simp [hc])
      rw [List.cons_append, List.idxOf?_cons, ih fun hx => h (List.mem_cons_of_mem c hx)]
      simp [hc]

/-! ## Unfencing -/

section Unfence

variable {p q t : List Char}

/-- Padding around a tight text that does not start with a backtick is removed. -/
theorem unfence_pad (hp : ∀ c ∈ p, isWhite c = true) (hq : ∀ c ∈ q, isWhite c = true)
    (ht : Tight t) (hfence : ∀ c ∈ t.head?, c ∉ fence) : unfence (p ++ t ++ q) = t := by
  have hnot : t.take 3 ≠ fence := by
    cases t with
    | nil => simp [fence]
    | cons c t =>
        have hc := hfence c rfl
        simp only [fence, List.mem_cons, List.not_mem_nil, or_false, or_self] at hc
        simp [fence, hc]
  simp only [unfence]
  rw [trimWhite_pad hp hq ht, if_neg hnot]

/-- A fenced text, its info line free of line breaks, padded with white space: unfencing gives
the tight text inside. -/
theorem unfence_fenced (hp : ∀ c ∈ p, isWhite c = true) (hq : ∀ c ∈ q, isWhite c = true)
    (ht : Tight t) {info : List Char} (hinfo : '\n' ∉ info) :
    unfence (p ++ (fence ++ info ++ '\n' :: (t ++ '\n' :: fence)) ++ q) = t := by
  -- the fence starts and ends with a backtick, so the padding alone is trimmed
  have hframe : Tight (fence ++ info ++ '\n' :: (t ++ '\n' :: fence)) := by
    constructor <;> simp [fence] <;> decide
  have hline : '\n' ∉ fence ++ info := by simpa [fence] using hinfo
  have hopen : (fence ++ info ++ '\n' :: (t ++ '\n' :: fence)).idxOf? '\n' =
      some (fence ++ info).length := idxOf?_newline hline
  have hafter : (fence ++ info ++ '\n' :: (t ++ '\n' :: fence)).drop
      ((fence ++ info).length + 1) = (t ++ ['\n']) ++ fence := by
    have hsplit : fence ++ info ++ '\n' :: (t ++ '\n' :: fence) =
        (fence ++ info ++ ['\n']) ++ ((t ++ ['\n']) ++ fence) := by
      simp
    have hlen : (fence ++ info).length + 1 = (fence ++ info ++ ['\n']).length := by
      simp only [List.length_append, List.length_singleton]
    rw [hsplit, hlen, List.drop_left]
  have hclose : ((t ++ ['\n']) ++ fence).take (t ++ ['\n']).length = t ++ ['\n'] :=
    List.take_left
  have htrim : trimWhite ([] ++ t ++ ['\n']) = t :=
    trimWhite_pad (by simp) (by simp [isWhite]) ht
  simp only [unfence, trimWhite_pad hp hq hframe, hopen, hafter, lastFence_append_fence,
    hclose]
  simpa [fence] using htrim

end Unfence

/-! ## The JSON text of a recommendation -/

theorem Value.compact_object (ms : List (String × Value)) :
    ∃ mid, (Value.object ms).compact.toList = '{' :: (mid ++ ['}']) := by
  refine ⟨(joinWith "," (Value.compactMembers ms)).toList, ?_⟩
  simp [Value.compact]

theorem Value.pretty_object (ms : List (String × Value)) :
    ∃ mid, (Value.object ms).prettyText.toList = '{' :: (mid ++ ['}']) := by
  cases ms with
  | nil => exact ⟨[], rfl⟩
  | cons m ms =>
      refine ⟨'\n' :: ((joinWith ",\n" (Value.prettyMembers 1 (m :: ms))).toList ++
        '\n' :: (Value.indentation 0).toList), ?_⟩
      simp [Value.prettyText, Value.pretty]

theorem tight_of_braces {t mid : List Char} (h : t = '{' :: (mid ++ ['}'])) :
    Tight t ∧ ∀ c ∈ t.head?, c ∉ fence := by
  subst h
  refine ⟨⟨?_, ?_⟩, ?_⟩ <;> simp [fence] <;> decide

/-- Reading a generator's answer gives back the recommendation whose compact or pretty JSON text
it holds, whenever reading that text alone does: the text may be padded with white space on both
sides, and may stand in one Markdown code fence whose info string has no line break, with the
fence itself padded. -/
theorem read_padded_or_fenced (o : Recommendation) (j : String)
    (hj : j = o.toJson.compact ∨ j = o.toJson.prettyText)
    (hread : (Recommendation.shape.readText j).map Recommendation.ofDecoded = .ok o)
    (p q info : String) (hp : ∀ c ∈ p.toList, isWhite c = true)
    (hq : ∀ c ∈ q.toList, isWhite c = true) (hinfo : '\n' ∉ info.toList) :
    Recommendation.read (p ++ j ++ q) = .ok o ∧
      Recommendation.read (p ++ "```" ++ info ++ "\n" ++ j ++ "\n```" ++ q) = .ok o := by
  have hbraces : ∃ mid, j.toList = '{' :: (mid ++ ['}']) := by
    rcases hj with rfl | rfl
    · exact Value.compact_object _
    · exact Value.pretty_object _
  obtain ⟨mid, hmid⟩ := hbraces
  obtain ⟨ht, hfence⟩ := tight_of_braces hmid
  have hpad : unfence (p ++ j ++ q).toList = j.toList := by
    simpa using unfence_pad hp hq ht hfence
  have hfenced : unfence (p ++ "```" ++ info ++ "\n" ++ j ++ "\n```" ++ q).toList = j.toList := by
    have h := unfence_fenced hp hq ht hinfo
    simp only [fence] at h
    simpa using h
  constructor
  · rw [Recommendation.read, hpad, String.ofList_toList, hread]
  · rw [Recommendation.read, hfenced, String.ofList_toList, hread]

/-- The pretty text of a service whose functionality holds three backticks, padded, then fenced
with a `json` info string, reads back. -/
theorem read_padded_or_fenced_sample :
    let o : Recommendation := ⟨[⟨"Sales", "Takes ``` orders", ["Order", "Customer"]⟩]⟩
    let j := o.toJson.prettyText
    (Recommendation.shape.readText j).map Recommendation.ofDecoded = .ok o ∧
      (∀ c ∈ " \n".toList, isWhite c = true) ∧ (∀ c ∈ "\n".toList, isWhite c = true) ∧
      '\n' ∉ "json".toList ∧
      Recommendation.read (" \n" ++ j ++ "\n") = .ok o ∧
      Recommendation.read (" \n" ++ "```" ++ "json" ++ "\n" ++ j ++ "\n```" ++ "\n") = .ok o := by
  intro o j
  have hread : (Recommendation.shape.readText j).map Recommendation.ofDecoded = .ok o := by
    simp only [j, o]
    cbv
  have hp : ∀ c ∈ " \n".toList, isWhite c = true := by simp [isWhite]
  have hq : ∀ c ∈ "\n".toList, isWhite c = true := by simp [isWhite]
  have hinfo : '\n' ∉ "json".toList := by decide
  exact ⟨hread, hp, hq, hinfo,
    read_padded_or_fenced o j (.inr rfl) hread " \n" "\n" "json" hp hq hinfo⟩

end MonolithSplit.Proposal
