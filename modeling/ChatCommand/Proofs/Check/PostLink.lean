import ChatCommand.Check.Format
import ChatCommand.Proofs.Text.Words

/-!
# Links to posts

A link to a post is put together from a scheme, a host, the name of an account, the word for a
post, the number of the post and an ending. Taking a text apart from left to right finds these
parts whenever they are there, because no part can be taken for the beginning of another one: no
scheme, host or word begins with another, and what follows a name or a number opens with a
character that neither has.

## Main definitions

- `Check.PostLink`: links to posts by their parts.
- `Check.HasHost`: the host that a link leads to.

## Main results

- `Check.afterOneOf_eq_some_iff`: a text opens with one of some texts in at most one way.
- `Check.isStatusLink_iff`: links are recognised exactly.
- `Check.postLinks_exact`: what is accepted as a link, and where it leads.
-/

namespace ChatCommand.Check

variable {text rest : List Char}

/-! ### Openings -/

/-- None of the texts begins with another one. -/
def PrefixFree (openings : List String) : Prop :=
  openings.Pairwise fun first second =>
    ¬ first.toList <+: second.toList ∧ ¬ second.toList <+: first.toList

theorem not_prefixes_of_pairwise {first second : List Char}
    (apart : ¬ first <+: second ∧ ¬ second <+: first) (opens : first <+: text) :
    ¬ second <+: text :=
  fun also => (List.prefix_or_prefix_of_prefix opens also).elim apart.1 apart.2

theorem afterOneOf_eq_some_iff {openings : List String} (apart : PrefixFree openings) :
    afterOneOf openings text = some rest ↔
      ∃ opening ∈ openings, text = opening.toList ++ rest := by
  unfold PrefixFree at apart
  induction openings with
  | nil => simp [afterOneOf]
  | cons opening openings ih =>
    obtain ⟨others, apart⟩ := List.pairwise_cons.mp apart
    have later := ih apart
    unfold afterOneOf at later ⊢
    rw [List.findSome?_cons]
    cases found : Text.afterExact? opening.toList text with
    | some behind =>
      -- The first opening fits, so that none of the others can.
      obtain rfl := Text.afterExact?_eq_some_iff.mp found
      have only : ∀ other ∈ openings, opening.toList ++ behind ≠ other.toList ++ rest :=
        fun other listed same =>
          not_prefixes_of_pairwise (others other listed) (List.prefix_append _ _)
            ⟨rest, same.symm⟩
      simp only [List.exists_mem_cons_iff, Option.some.injEq, List.append_cancel_left_eq]
      exact ⟨.inl, fun either => either.resolve_right fun ⟨other, listed, same⟩ =>
        only other listed same⟩
    | none =>
      have unopened : text ≠ opening.toList ++ rest := by
        rintro same
        rw [Text.afterExact?_eq_some_iff.mpr same] at found
        contradiction
      simp only [List.exists_mem_cons_iff, unopened, false_or]
      exact later

/-- An opening that may be there is told from one that has to be there. -/
theorem afterOneOf_afterOptional_iff {optional required : List String}
    (apart : PrefixFree (optional ++ required)) :
    afterOneOf required (afterOptional optional text) = some rest ↔
      ∃ first ∈ "" :: optional, ∃ second ∈ required,
        text = first.toList ++ (second.toList ++ rest) := by
  obtain ⟨apartOptional, apartRequired, across⟩ := List.pairwise_append.mp apart
  unfold afterOptional
  cases found : afterOneOf optional text with
  | some behind =>
    rw [Option.getD_some, afterOneOf_eq_some_iff apartRequired]
    obtain ⟨first, listed, rfl⟩ := (afterOneOf_eq_some_iff apartOptional).mp found
    constructor
    · rintro ⟨second, required, rfl⟩
      exact ⟨first, List.mem_cons_of_mem _ listed, second, required, rfl⟩
    · rintro ⟨other, either, second, required, same⟩
      refine ⟨second, required, ?_⟩
      rcases List.mem_cons.mp either with rfl | other_listed
      · -- What has to be there cannot begin like what may be there.
        exact absurd ⟨rest, same.symm⟩
          (not_prefixes_of_pairwise (across first listed second required) (List.prefix_append _ _))
      · have again := (afterOneOf_eq_some_iff apartOptional).mpr ⟨other, other_listed, same⟩
        rw [again] at found
        exact (Option.some.inj found).symm
  | none =>
    rw [Option.getD_none, afterOneOf_eq_some_iff apartRequired]
    constructor
    · rintro ⟨second, required, rfl⟩
      exact ⟨"", List.mem_cons_self, second, required, rfl⟩
    · rintro ⟨first, either, second, required, same⟩
      rcases List.mem_cons.mp either with rfl | listed
      · exact ⟨second, required, same⟩
      · rw [(afterOneOf_eq_some_iff apartOptional).mpr ⟨first, listed, same⟩] at found
        contradiction

/-! ### Parts of a link -/

/-- The schemes of links. -/
def schemes : List String := ["http://", "https://"]

/-- What may stand in front of the domain. -/
def subdomains : List String := ["", "www.", "mobile."]

/-- The domains, with the slash behind them. -/
def domains : List String := ["twitter.com/", "x.com/"]

/-- The words for a post. -/
def postWords : List String := ["/status/", "/statuses/"]

/-- The text is nothing, or a question mark or number sign with characters behind it that are no
white space. -/
def IsTail (text : List Char) : Prop :=
  text = [] ∨ ∃ mark ∈ ['?', '#'], ∃ rest, text = mark :: rest ∧ ∀ c ∈ rest, Text.isBlank c = false

/-- A link to a post, by its parts. -/
structure PostLink where
  scheme : String
  subdomain : String
  domain : String
  account : List Char
  word : String
  post : List Char
  slash : String
  tail : List Char
  scheme_mem : scheme ∈ schemes
  subdomain_mem : subdomain ∈ subdomains
  domain_mem : domain ∈ domains
  account_length : 1 ≤ account.length ∧ account.length ≤ 15
  account_within : Text.Within isAccountChar account
  word_mem : word ∈ postWords
  post_filled : post ≠ []
  post_within : Text.Within Text.isDecimalDigit post
  slash_mem : slash ∈ ["", "/"]
  tail_form : IsTail tail

namespace PostLink

/-- What follows the domain. -/
def path (link : PostLink) : List Char :=
  link.account ++ (link.word.toList ++ (link.post ++ (link.slash.toList ++ link.tail)))

/-- The text of a link. -/
def toList (link : PostLink) : List Char :=
  link.scheme.toList ++ (link.subdomain.toList ++ (link.domain.toList ++ link.path))

end PostLink

/-! ### Recognising links -/

theorem afterHost_iff :
    (do
      let host ← afterOneOf ["http://", "https://"] text
      afterOneOf ["twitter.com/", "x.com/"] (afterOptional ["www.", "mobile."] host)) = some rest ↔
      ∃ scheme ∈ schemes, ∃ subdomain ∈ subdomains, ∃ domain ∈ domains,
        text = scheme.toList ++ (subdomain.toList ++ (domain.toList ++ rest)) := by
  have apartSchemes : PrefixFree ["http://", "https://"] := by
    unfold PrefixFree
    decide
  have apartHosts : PrefixFree (["www.", "mobile."] ++ ["twitter.com/", "x.com/"]) := by
    unfold PrefixFree
    decide
  simp only [Option.bind_eq_bind, Option.bind_eq_some_iff, afterOneOf_eq_some_iff apartSchemes,
    afterOneOf_afterOptional_iff apartHosts]
  constructor
  · rintro ⟨_, ⟨scheme, scheme_mem, rfl⟩, subdomain, subdomain_mem, domain, domain_mem, rfl⟩
    exact ⟨scheme, scheme_mem, subdomain, subdomain_mem, domain, domain_mem, rfl⟩
  · rintro ⟨scheme, scheme_mem, subdomain, subdomain_mem, domain, domain_mem, rfl⟩
    exact ⟨_, ⟨scheme, scheme_mem, rfl⟩, subdomain, subdomain_mem, domain, domain_mem, rfl⟩

theorem afterWord_iff :
    afterOneOf ["/status/", "/statuses/"] text = some rest ↔
      ∃ word ∈ postWords, text = word.toList ++ rest := by
  refine afterOneOf_eq_some_iff ?_
  unfold PrefixFree
  decide

theorem isLinkTail_iff : isLinkTail text = true ↔ IsTail text := by
  cases text with
  | nil => simp [isLinkTail, IsTail]
  | cons c rest => grind [isLinkTail, IsTail]

theorem isLinkTail_afterOptional_iff :
    isLinkTail (afterOptional ["/"] text) = true ↔
      ∃ slash ∈ ["", "/"], ∃ tail, text = slash.toList ++ tail ∧ IsTail tail := by
  have apart : PrefixFree ["/"] := List.pairwise_singleton _ _
  unfold afterOptional
  rw [isLinkTail_iff]
  cases found : afterOneOf ["/"] text with
  | some behind =>
    obtain ⟨slash, listed, rfl⟩ := (afterOneOf_eq_some_iff apart).mp found
    obtain rfl := List.mem_singleton.mp listed
    constructor
    · intro form
      exact ⟨"/", by decide, behind, rfl, form⟩
    · rintro ⟨slash, listed, tail, same, form⟩
      rcases (by simpa using listed : slash = "" ∨ slash = "/") with rfl | rfl
      · -- No tail opens with a slash.
        obtain rfl : '/' :: behind = tail := same
        rcases form with nothing | ⟨mark, marks, rest, opens, -⟩
        · contradiction
        · cases opens
          contradiction
      · obtain rfl : behind = tail := List.append_cancel_left same
        exact form
  | none =>
    constructor
    · intro form
      exact ⟨"", by decide, text, rfl, form⟩
    · rintro ⟨slash, listed, tail, rfl, form⟩
      rcases (by simpa using listed : slash = "" ∨ slash = "/") with rfl | rfl
      · exact form
      · rw [(afterOneOf_eq_some_iff apart).mpr ⟨"/", by decide, rfl⟩] at found
        contradiction

/-- What follows the number of a post is no digit. -/
theorem opensOutside_ending {slash : String} {tail : List Char} (listed : slash ∈ ["", "/"])
    (form : IsTail tail) : Text.OpensOutside Text.isDecimalDigit (slash.toList ++ tail) := by
  rcases (by simpa using listed : slash = "" ∨ slash = "/") with rfl | rfl
  · rcases form with rfl | ⟨mark, marks, rest, rfl, -⟩
    · trivial
    · rcases (by simpa using marks : mark = '?' ∨ mark = '#') with rfl | rfl
      · show Text.isDecimalDigit '?' = false
        decide
      · show Text.isDecimalDigit '#' = false
        decide
  · show Text.isDecimalDigit '/' = false
    decide

/-- What follows the name of an account has no part in such a name. -/
theorem opensOutside_postWord {word : String} (listed : word ∈ postWords) (more : List Char) :
    Text.OpensOutside isAccountChar (word.toList ++ more) := by
  rcases (by simpa [postWords] using listed : word = "/status/" ∨ word = "/statuses/") with
    rfl | rfl
  all_goals
    show isAccountChar '/' = false
    decide

theorem exists_postLink (recognised : isStatusLink text = true) :
    ∃ link : PostLink, link.toList = text := by
  unfold isStatusLink at recognised
  dsimp only at recognised
  split at recognised
  next => contradiction
  next path found =>
    split at recognised
    next => contradiction
    next ending word_found =>
      simp only [Bool.and_eq_true, decide_eq_true_eq, Bool.not_eq_true', List.isEmpty_eq_false_iff]
        at recognised
      obtain ⟨⟨length, filled⟩, ends⟩ := recognised
      obtain ⟨scheme, scheme_mem, subdomain, subdomain_mem, domain, domain_mem, rfl⟩ :=
        afterHost_iff.mp found
      obtain ⟨word, word_mem, behind⟩ := afterWord_iff.mp word_found
      obtain ⟨slash, slash_mem, tail, behind_post, tail_form⟩ :=
        isLinkTail_afterOptional_iff.mp ends
      have named := Text.cut_run_iff.mp ⟨rfl, behind⟩
      have numbered := Text.cut_run_iff.mp ⟨rfl, behind_post⟩
      refine ⟨⟨scheme, subdomain, domain, path.takeWhile isAccountChar, word,
        ending.takeWhile Text.isDecimalDigit, slash, tail, scheme_mem, subdomain_mem, domain_mem,
        length, named.2.1, word_mem, filled, numbered.2.1, slash_mem, tail_form⟩, ?_⟩
      unfold PostLink.toList PostLink.path
      dsimp only
      rw [← numbered.1, ← named.1]

theorem PostLink.isStatusLink_toList (link : PostLink) : isStatusLink link.toList = true := by
  have found : (do
      let host ← afterOneOf ["http://", "https://"] link.toList
      afterOneOf ["twitter.com/", "x.com/"] (afterOptional ["www.", "mobile."] host)) =
        some link.path :=
    afterHost_iff.mpr ⟨link.scheme, link.scheme_mem, link.subdomain, link.subdomain_mem,
      link.domain, link.domain_mem, rfl⟩
  obtain ⟨account, behind⟩ := Text.cut_run_iff.mpr ⟨(rfl : link.path = _), link.account_within,
    opensOutside_postWord link.word_mem _⟩
  have word_found := afterWord_iff.mpr ⟨link.word, link.word_mem, behind⟩
  obtain ⟨post, behind_post⟩ := Text.cut_run_iff.mpr ⟨rfl, link.post_within,
    opensOutside_ending link.slash_mem link.tail_form⟩
  have ends := isLinkTail_afterOptional_iff.mpr
    ⟨link.slash, link.slash_mem, link.tail, behind_post, link.tail_form⟩
  unfold isStatusLink
  dsimp only
  rw [found]
  dsimp only
  rw [word_found]
  simp only [account, post, ends, Bool.and_eq_true, decide_eq_true_eq, Bool.not_eq_true',
    List.isEmpty_eq_false_iff]
  exact ⟨⟨link.account_length, link.post_filled⟩, trivial⟩

/-- Links to posts are recognised exactly. -/
theorem isStatusLink_iff : isStatusLink text = true ↔ ∃ link : PostLink, link.toList = text :=
  ⟨exists_postLink, fun ⟨link, spelled⟩ => spelled ▸ link.isStatusLink_toList⟩

/-! ### White space -/

theorem isBlank_of_isDecimalDigit {c : Char} (digit : Text.isDecimalDigit c = true) :
    Text.isBlank c = false := by
  have ranged : Text.inRanges Text.decimalDigitRanges c = true := by
    unfold Text.isDecimalDigit at digit
    split at digit
    next small =>
      have bounds : 48 ≤ c.toNat ∧ c.toNat ≤ 57 := by
        simpa [Char.isDigit, UInt32.le_iff_toNat_le] using digit
      exact Text.inRanges_iff.mpr ⟨(0x30, 0x39), by decide, bounds⟩
    next => exact digit
  rw [Text.isBlank_eq]
  exact Text.inRanges_of_apart (by decide +kernel) ranged

theorem isBlank_of_isAccountChar {c : Char} (part : isAccountChar c = true) :
    Text.isBlank c = false := by
  have ranged : Text.inRanges [(48, 57), (65, 90), (95, 95), (97, 122)] c = true := by
    simp only [isAccountChar, Char.isAlphanum, Char.isAlpha, Char.isUpper, Char.isLower,
      Char.isDigit, Bool.or_eq_true, Bool.and_eq_true, decide_eq_true_eq, beq_iff_eq, ge_iff_le,
      UInt32.le_iff_toNat_le] at part
    simp only [Text.inRanges_iff, List.exists_mem_cons_iff, List.not_mem_nil, false_and,
      exists_false, or_false]
    rcases part with ((upper | lower) | digit) | rfl
    · exact .inr (.inl upper)
    · exact .inr (.inr (.inr lower))
    · exact .inl digit
    · exact .inr (.inr (.inl (by decide)))
  rw [Text.isBlank_eq]
  exact Text.inRanges_of_apart (by decide +kernel) ranged

/-- No part of a link has white space in it. -/
theorem PostLink.isBlank_eq_false (link : PostLink) :
    ∀ c ∈ link.toList, Text.isBlank c = false := by
  -- The parts that are the same in many links are looked through one by one.
  have fixed : ∀ part ∈ schemes ++ subdomains ++ domains ++ postWords ++ ["", "/"],
      part.toList.all (!Text.isBlank ·) = true := by decide
  simp only [List.mem_append, or_imp, forall_and, List.all_eq_true, Bool.not_eq_true'] at fixed
  obtain ⟨⟨⟨⟨scheme, subdomain⟩, domain⟩, word⟩, slash⟩ := fixed
  have tail : ∀ c ∈ link.tail, Text.isBlank c = false := by
    rcases link.tail_form with nothing | ⟨mark, marks, rest, opens, solid⟩
    · simp [nothing]
    · have first : ['?', '#'].all (!Text.isBlank ·) = true := by decide
      rw [opens, List.forall_mem_cons]
      exact ⟨by simpa using List.all_eq_true.mp first mark marks, solid⟩
  unfold PostLink.toList PostLink.path
  simp only [List.forall_mem_append]
  exact ⟨scheme _ link.scheme_mem, subdomain _ link.subdomain_mem, domain _ link.domain_mem,
    fun c member => isBlank_of_isAccountChar (link.account_within c member),
    word _ link.word_mem, fun c member => isBlank_of_isDecimalDigit (link.post_within c member),
    slash _ link.slash_mem, tail⟩

/-! ### Hosts -/

/-- The characters that end a host. -/
def hostEnds : List Char := ['/', '?', '#']

/-- The host that a link leads to stands behind the first colon and two slashes, and ends before a
path, a query or a fragment. -/
def HasHost (text : List Char) (host : String) : Prop :=
  ∃ protocol rest, text = protocol ++ ("://".toList ++ (host.toList ++ rest)) ∧
    Text.Within (· != ':') protocol ∧ Text.Within (· ∉ hostEnds) host.toList ∧
    Text.OpensOutside (· ∉ hostEnds) rest

/-- A text has one host at most. -/
theorem HasHost.unique {host other : String} (has : HasHost text host)
    (also : HasHost text other) : host = other := by
  have behind {host : String} (has : HasHost text host) :
      ((text.dropWhile (· != ':')).drop 3).takeWhile (· ∉ hostEnds) = host.toList := by
    obtain ⟨protocol, rest, split_at, before, inside, after⟩ := has
    have colon : Text.OpensOutside (· != ':') ("://".toList ++ (host.toList ++ rest)) := rfl
    rw [(Text.cut_run_iff.mpr ⟨split_at, before, colon⟩).2]
    exact (Text.cut_run_iff.mpr ⟨rfl, inside, after⟩).1
  exact String.toList_inj.mp ((behind has).symm.trans (behind also))

/-- The hosts of links to posts. -/
def hosts : List String :=
  ["twitter.com", "www.twitter.com", "mobile.twitter.com", "x.com", "www.x.com", "mobile.x.com"]

theorem PostLink.exists_hasHost (link : PostLink) : ∃ host ∈ hosts, HasHost link.toList host := by
  have opens : ∀ scheme ∈ schemes, ∃ protocol ∈ ["http", "https"],
      scheme.toList = protocol.toList ++ "://".toList ∧
        protocol.toList.all (· != ':') = true := by decide
  have closes : ∀ subdomain ∈ subdomains, ∀ domain ∈ domains, ∃ host ∈ hosts,
      subdomain.toList ++ domain.toList = host.toList ++ ['/'] ∧
        host.toList.all (· ∉ hostEnds) = true := by decide +kernel
  obtain ⟨protocol, -, scheme, before⟩ := opens _ link.scheme_mem
  obtain ⟨host, listed, name, inside⟩ := closes _ link.subdomain_mem _ link.domain_mem
  refine ⟨host, listed, protocol.toList, '/' :: link.path, ?_, List.all_eq_true.mp before,
    List.all_eq_true.mp inside, rfl⟩
  unfold PostLink.toList
  rw [scheme, ← List.append_assoc link.subdomain.toList, name]
  simp

/-- What is accepted as a link to a post is left as it is and has the parts of such a link, in
their order and without anything else. So it leads to one of the hosts, and to no other, and there
is no white space in it. -/
theorem postLinks_exact :
    (∀ s t : String, statusLink.run (some (.text s)) = .ok t ↔
      t = s ∧ ∃ link : PostLink, link.toList = s.toList) ∧
    ∀ s t : String, statusLink.run (some (.text s)) = .ok t →
      (∀ c ∈ s.toList, Text.isBlank c = false) ∧
        ∃ host ∈ hosts, ∀ other, HasHost s.toList other ↔ other = host := by
  have accepted (s t : String) : statusLink.run (some (.text s)) = .ok t ↔
      t = s ∧ ∃ link : PostLink, link.toList = s.toList := by
    unfold statusLink
    rw [run_ruled_eq_ok_iff, Rule.matching_eq_none_iff, isStatusLink_iff]
    simp only [Option.some.injEq, Json.text.injEq]
    constructor
    · rintro ⟨rfl, link⟩
      exact ⟨rfl, link⟩
    · rintro ⟨rfl, link⟩
      exact ⟨rfl, link⟩
  refine ⟨accepted, fun s t run => ?_⟩
  obtain ⟨-, link, spelled⟩ := (accepted s t).mp run
  rw [← spelled]
  obtain ⟨host, listed, has⟩ := link.exists_hasHost
  exact ⟨link.isBlank_eq_false, host, listed, fun other =>
    ⟨fun also => also.unique has, fun same => same ▸ has⟩⟩

end ChatCommand.Check
