import BindingLang.Proofs.Parser.Ending
import BindingLang.Proofs.Parser.Extension
import BindingLang.Proofs.Parser.RoundTrip
import BindingLang.Proofs.Token.Tiling
/-!
  Sources in surroundings: what parses by itself parses so before a comma, a colon or a
  closing bracket.

  At the end of the stream an expression may end in two more ways than before a token: it
  may be empty, by itself or behind the colon of a choice. A source that ends in a bracket
  does neither. But the stream may end before the source does, at a character that no
  token starts with; then what stands behind that character is not read at all, and the
  source is one thing by itself and another in surroundings.

  What is proved:
    1. `RunWith.before_end` — a run whose tokens do not end in a colon goes the same way before
       a token that no expression goes on at.
    2. `reads_of_parse` — a source that is read to its last character, which is a bracket,
       reads as its tree in any surroundings.
-/

namespace BindingLang

namespace Parser

open BindingLang.Token

section Runs

variable {N : Type} {B : Builder N} {goal : Goal N} {result : Yield N} {ts us more : List Token}

theorem not_endsInColon_of_suffix (h : ¬ EndsInColon ts) (hs : us <:+ ts) : ¬ EndsInColon us := by
  by_cases hne : us = []
  · rw [hne]
    exact not_endsInColon_nil
  · rwa [← endsInColon_of_suffix hs hne]

/-- What is asked of the first token, if it is asked of the first of `more` as well, may be
asked of it with `more` behind. -/
theorem forall_head_before {P : Token → Prop} (h : ∀ t ∈ ts.head?, P t)
    (hmore : ∀ t ∈ more.head?, P t) : ∀ t ∈ (ts ++ more).head?, P t := by
  cases ts with
  | nil => exact hmore
  | cons t ts => exact h

/-- A run goes the same way before a token that no expression goes on at, unless it is
empty or its tokens end in a colon. -/
theorem RunWith.before_end (h : Run B goal ts result us) (hlast : ¬ EndsInColon ts)
    (hne : goal = .expression → ts ≠ []) (hm : Ends more) :
    Run B goal (ts ++ more) result (us ++ more) := by
  -- A part with no tokens of its own takes none: it may stop before `more` as it did at the
  -- end of the stream. Only an empty expression may not, and none of the parts is one.
  induction h with
  | empty => exact absurd rfl (hne rfl)
  | whole first tail ihf iht =>
    have hus := not_endsInColon_of_suffix hlast first.suffix
    exact .whole (ihf hlast nofun) (iht hus nofun)
  | stop ends => exact .stop (forall_head_before ends fun t ht => (hm t ht).not_extends _)
  | call opens list builds tail ihl iht =>
    have hts := not_endsInColon_of_suffix hlast (List.suffix_cons _ _)
    have hus := not_endsInColon_of_suffix hts list.suffix
    exact .call opens (ihl hts nofun) builds (iht hus nofun)
  | index opens key closes tail ihk iht =>
    have hts := not_endsInColon_of_suffix hlast (List.suffix_cons _ _)
    have hkey := not_endsInColon_of_suffix hts key.suffix
    have hus := not_endsInColon_of_suffix hkey (List.suffix_cons _ _)
    have hne := ne_nil_of_suffix key.suffix (List.cons_ne_nil _ _)
    exact .index opens (ihk hts fun _ => hne) closes (iht hus nofun)
  | getter kind operand splits tail iho iht =>
    have hts := not_endsInColon_of_suffix hlast (List.suffix_cons _ _)
    have hus := not_endsInColon_of_suffix hts operand.suffix
    exact .getter kind (iho hts nofun) splits (iht hus nofun)
  | method kind operand splits builds tail iho iht =>
    have hts := not_endsInColon_of_suffix hlast (List.suffix_cons _ _)
    have hus := not_endsInColon_of_suffix hts operand.suffix
    exact .method kind (iho hts nofun) splits builds (iht hus nofun)
  | ternary kind value binds first colons second tail ihf ihs iht =>
    have hts := not_endsInColon_of_suffix hlast (List.suffix_cons _ _)
    have hfirst := not_endsInColon_of_suffix hts first.suffix
    have hus := not_endsInColon_of_suffix hfirst (List.suffix_cons _ _)
    have hvs := not_endsInColon_of_suffix hus second.suffix
    have hne := ne_nil_of_suffix first.suffix (List.cons_ne_nil _ _)
    -- The colon is not the last token, so the second branch has tokens.
    refine .ternary kind value binds (ihf hts fun _ => hne) colons (ihs hus ?_) (iht hvs nofun)
    rintro - rfl
    exact hfirst ⟨_, rfl, colons⟩
  | binary kind value binds known first second tail ihf ihs iht =>
    have hts := not_endsInColon_of_suffix hlast (List.suffix_cons _ _)
    have hus := not_endsInColon_of_suffix hts first.suffix
    have hvs := not_endsInColon_of_suffix hus second.suffix
    exact .binary kind value binds known (ihf hts nofun) (ihs hus nofun) (iht hvs nofun)
  | looser ends => exact .looser (forall_head_before ends fun t ht => (hm t ht).not_tighter _)
  | stuck tighter step ih => exact .stuck tighter (ih hlast nofun)
  | @tighter operator next right extended node ts us vs tighter step moves tail ihs iht =>
    have hus := not_endsInColon_of_suffix hlast step.suffix
    refine .tighter tighter (ihs hlast nofun) ?_ (iht hus nofun)
    show (us ++ more).length ≤ (ts ++ more).length
    rw [List.length_append, List.length_append]
    exact Nat.add_le_add_right moves _
  | atom kind primary ih => exact .atom kind (ih hlast nofun)
  | signed kind sign' number' reads => exact .signed kind sign' number' reads
  | @prefixed operator ts us vs operand node kind unsigned known primary tail ihp iht =>
    have hts := not_endsInColon_of_suffix hlast (List.suffix_cons _ _)
    have hus := not_endsInColon_of_suffix hts primary.suffix
    have hne : ts ≠ [] := by
      rintro rfl
      exact absurd primary.lt_of_primary (Nat.not_lt_zero _)
    exact .prefixed kind (forall_head_append hne unsigned more) known (ihp hts nofun)
      (iht hus nofun)
  | this kind value => exact .this kind value
  | constant reads => exact .constant reads
  | name kind noWord ends =>
    exact .name kind noWord (forall_head_before ends fun t ht => (hm t ht).not_open)
  | nameCall kind noWord opens list builds ih =>
    have hcons := not_endsInColon_of_suffix hlast (List.suffix_cons _ _)
    have hts := not_endsInColon_of_suffix hcons (List.suffix_cons _ _)
    exact .nameCall kind noWord opens (ih hts nofun) builds
  | paren opens run closes ih =>
    have hts := not_endsInColon_of_suffix hlast (List.suffix_cons _ _)
    have hne := ne_nil_of_suffix run.suffix (List.cons_ne_nil _ _)
    exact .paren opens (ih hts fun _ => hne) closes
  | map opens list ih =>
    have hts := not_endsInColon_of_suffix hlast (List.suffix_cons _ _)
    exact .map opens (ih hts nofun)
  | list opens list ih =>
    have hts := not_endsInColon_of_suffix hlast (List.suffix_cons _ _)
    exact .list opens (ih hts nofun)
  | itemsNone closes => exact .itemsNone closes
  | itemsLast opens run closes ih =>
    have hne := ne_nil_of_suffix run.suffix (List.cons_ne_nil _ _)
    exact .itemsLast (forall_head_append hne opens more) (ih hlast fun _ => hne) closes
  | itemsMore opens run commas rest ihr ihs =>
    have hne := ne_nil_of_suffix run.suffix (List.cons_ne_nil _ _)
    have hus := not_endsInColon_of_suffix hlast ((List.suffix_cons _ _).trans run.suffix)
    exact .itemsMore (forall_head_append hne opens more) (ihr hlast fun _ => hne) commas
      (ihs hus nofun)
  | entriesNone closes => exact .entriesNone closes
  | entriesLast kind colons run closes ih =>
    have hcons := not_endsInColon_of_suffix hlast (List.suffix_cons _ _)
    have hts := not_endsInColon_of_suffix hcons (List.suffix_cons _ _)
    have hne := ne_nil_of_suffix run.suffix (List.cons_ne_nil _ _)
    exact .entriesLast kind colons (ih hts fun _ => hne) closes
  | entriesMore kind colons run commas rest ihr ihs =>
    have hcons := not_endsInColon_of_suffix hlast (List.suffix_cons _ _)
    have hts := not_endsInColon_of_suffix hcons (List.suffix_cons _ _)
    have hne := ne_nil_of_suffix run.suffix (List.cons_ne_nil _ _)
    have hus := not_endsInColon_of_suffix hts ((List.suffix_cons _ _).trans run.suffix)
    exact .entriesMore kind colons (ihr hts fun _ => hne) commas (ihs hus nofun)

end Runs

section Sources

theorem eq_nil_of_written_nil {ts : List Token} (h : Written [] ts) : ts = [] := by
  generalize hnil : ([] : List Char) = none at h
  cases h with
  | nil => rfl
  | blank => cases hnil
  | token nonempty => exact absurd (List.append_eq_nil_iff.mp hnil.symm).1 nonempty

/-- A text that ends in a character of tokens other than the colon has tokens, the last of
which is no colon. -/
theorem last_of_written {cs : List Char} {c : Char} {ts : List Token}
    (h : Written (cs ++ [c]) ts) (hblank : Text.isBlank c = false) (hcolon : c ≠ ':') :
    ts ≠ [] ∧ ¬ EndsInColon ts := by
  generalize hall : cs ++ [c] = all at h
  induction h generalizing cs with
  | nil => exact absurd hall (by simp)
  | @blank b rest ts blank written ih =>
    cases cs with
    | nil =>
      cases hall
      rw [hblank] at blank
      cases blank
    | cons d cs =>
      obtain ⟨-, hrest⟩ := List.cons.inj hall
      exact ih hrest
  | @token piece rest t ts nonempty scan written ih =>
    refine ⟨List.cons_ne_nil _ _, ?_⟩
    cases rest using List.reverseRecOn with
    | nil =>
      -- The token is the last, and its text ends in the character.
      obtain rfl := eq_nil_of_written_nil written
      rw [List.append_nil] at scan hall
      rintro ⟨u, hu, hk⟩
      obtain rfl : t = u := Option.some.inj hu
      have hcut := cutFrom_of_scan scan
      have hspells := hcut.valid.spelling
      rw [hk, hcut.text (by rw [hk]; decide), List.take_length] at hspells
      have hlast : cs ++ [c] = [] ++ [':'] := hall.trans hspells
      exact hcolon (List.singleton_inj.mp (List.append_inj_right' hlast rfl))
    | append_singleton rest d =>
      have hlast : (piece ++ rest) ++ [d] = cs ++ [c] := by
        rw [hall, List.append_assoc]
      obtain rfl := List.singleton_inj.mp (List.append_inj_right' hlast rfl)
      obtain ⟨hne, hno⟩ := ih rfl
      rwa [endsInColon_of_suffix (List.suffix_cons t ts) hne]

/-- A source that is read to its last character, a bracket, reads as its tree in any
surroundings. -/
theorem reads_of_parse {source : String} {cs : List Char} {ts : List Token} {e : Expr}
    (hparse : Expr.parse source = .ok e) (hwritten : Written source.toList ts)
    (hsource : source.toList = cs ++ [')']) : Reads source.toList e := by
  obtain ⟨-, hrun⟩ := parse_eq_ok_iff.mp hparse
  rw [hwritten.stream_eq] at hrun
  obtain ⟨hne, hlast⟩ := last_of_written (hsource ▸ hwritten) (by decide) (by decide)
  refine ⟨ts, ?_, fun hus => hrun.before_end hlast (fun _ => hne) hus⟩
  intro rest us hloose hrest
  cases rest with
  | nil =>
    rw [eq_nil_of_written_nil hrest, List.append_nil, List.append_nil]
    exact hwritten
  | cons b rest => exact hwritten.append (hloose b rfl) hrest

end Sources

end Parser

end BindingLang
