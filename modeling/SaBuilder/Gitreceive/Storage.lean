import Mathlib.Data.List.Infix

/-!
# Where a build's objects are stored

`NewSlugBuilderInfo` names the three objects of a build in the builder's object
store: the code that was pushed (`push`), the tarball of the slug builder
(`tar`) and the slug it writes (`slug`), each by a key and by the URL of that
key on the store's endpoint. The endpoint is made from the environment variable
`DEIS_BUILDER_SERVICE_HOST`, a parameter here.

The revision is a `*git.SHA`. The package `git` is not among the source files,
and the only method called on the revision is `Short()`, so a revision is what
`Short()` returns (`SaBuilder.Gitreceive.Storage.SHA`).

## What the naming ensures

Two builds share an object only when they should. The push and the slug key
are `home/<app>:git-<short>/push` and `home/<app>:git-<short>/slug`: they
determine the application and the abbreviated revision, provided that the two
abbreviations have one length, since the format cut at its arguments is then
read from both ends. The tar key `home/<slug>/tar` determines the slug name.
The three kinds never meet, whatever the arguments, because the last four
characters of a key (`SaBuilder.Gitreceive.Storage.Kind.tag`) tell its kind.
A URL is the endpoint, `/git/` and the key, so under one endpoint two URLs
are equal exactly when their keys are.

The length condition cannot be dropped: an application `a` at a revision
abbreviated `s ++ ":git-" ++ t` and the application `a ++ ":git-" ++ s` at `t`
push to one key (`SaBuilder.Gitreceive.Storage.pushKey_shift`).
-/

namespace SaBuilder

namespace Gitreceive

namespace Storage

/-! ### The model -/

/-- A `*git.SHA`, through the one method this package calls on it. -/
structure SHA where
  /-- `Short()`: the abbreviated revision. -/
  short : String
  deriving DecidableEq, Repr

/-- `SlugBuilderInfo`: the keys of a build's three objects and their URLs. The
accessors `PushKey()`, `PushURL()`, `TarKey()`, `TarURL()` and `SlugURL()` are
the projections; the slug key has no accessor. -/
structure SlugBuilderInfo where
  pushKey : String
  pushURL : String
  tarKey : String
  tarURL : String
  slugKey : String
  slugURL : String
  deriving DecidableEq, Repr

/-- `NewSlugBuilderInfo(appName, slugName, gitSha)`, where `builderServiceHost`
is what `os.Getenv("DEIS_BUILDER_SERVICE_HOST")` returns. A `fmt.Sprintf` whose
verbs are all `%s` on strings is the concatenation of its pieces. -/
def newSlugBuilderInfo (builderServiceHost appName slugName : String) (gitSha : SHA) :
    SlugBuilderInfo :=
  let s3Endpoint := "http://" ++ builderServiceHost ++ ":3000"
  let tarKey := "home/" ++ slugName ++ "/tar"
  let pushKey := "home/" ++ appName ++ ":git-" ++ gitSha.short ++ "/push"
  let slugKey := "home/" ++ appName ++ ":git-" ++ gitSha.short ++ "/slug"
  { pushKey := pushKey, pushURL := s3Endpoint ++ "/git/" ++ pushKey,
    tarKey := tarKey, tarURL := s3Endpoint ++ "/git/" ++ tarKey,
    slugKey := slugKey, slugURL := s3Endpoint ++ "/git/" ++ slugKey }

/-! ### The three objects -/

/-- The three objects a build stores. -/
inductive Kind where
  | push : Kind
  | tar : Kind
  | slug : Kind
  deriving DecidableEq, Repr

/-- The key of an object of the build. -/
def SlugBuilderInfo.key (info : SlugBuilderInfo) : Kind → String
  | .push => info.pushKey
  | .tar => info.tarKey
  | .slug => info.slugKey

/-- The URL of an object of the build. -/
def SlugBuilderInfo.url (info : SlugBuilderInfo) : Kind → String
  | .push => info.pushURL
  | .tar => info.tarURL
  | .slug => info.slugURL

/-- The last four characters of a key of each kind. -/
def Kind.tag : Kind → String
  | .push => "push"
  | .tar => "/tar"
  | .slug => "slug"

theorem Kind.length_tag (k : Kind) : k.tag.data.length = 4 := by
  cases k <;> rfl

theorem Kind.tag_injective {k k' : Kind} (h : k.tag.data = k'.tag.data) : k = k' := by
  cases k <;> cases k' <;> first | rfl | exact absurd h (by decide)

section Keys

variable (builderServiceHost appName slugName : String) (gitSha : SHA)

/-- Every URL is the endpoint, `/git/`, then the key. -/
theorem url_newSlugBuilderInfo (k : Kind) :
    (newSlugBuilderInfo builderServiceHost appName slugName gitSha).url k =
      "http://" ++ builderServiceHost ++ ":3000" ++ "/git/" ++
        (newSlugBuilderInfo builderServiceHost appName slugName gitSha).key k := by
  cases k <;> rfl

/-- A key ends in the tag of its kind. -/
theorem tag_suffix_key (k : Kind) :
    k.tag.data <:+
      ((newSlugBuilderInfo builderServiceHost appName slugName gitSha).key k).data := by
  have ends : ∀ x t : String, k.tag.data <:+ t.data → k.tag.data <:+ (x ++ t).data :=
    fun _ _ h => h.trans (List.suffix_append _ _)
  cases k <;> exact ends _ _ (by decide)

/-- Without one length for the abbreviations, the push key does not tell the
application from the revision. -/
theorem pushKey_shift (s t : String) :
    (newSlugBuilderInfo builderServiceHost appName slugName ⟨s ++ ":git-" ++ t⟩).pushKey =
      (newSlugBuilderInfo builderServiceHost (appName ++ ":git-" ++ s) slugName
        ⟨t⟩).pushKey := by
  simp only [newSlugBuilderInfo, String.append_assoc]

end Keys

/-! ### Which keys are equal -/

section Equal

variable {host host' a a' n n' : String} {g g' : SHA}

/-- The format of the push and the slug key, cut at its arguments: with one
length for the abbreviations, it determines both. -/
theorem revKey_eq_iff (t : String) {s s' : String} (hs : s.length = s'.length) :
    "home/" ++ a ++ ":git-" ++ s ++ t = "home/" ++ a' ++ ":git-" ++ s' ++ t ↔
      (a, s) = (a', s') := by
  refine ⟨fun h => ?_, fun h => by cases h; rfl⟩
  simp only [String.ext_iff, String.data_append, List.append_cancel_right_eq] at h
  simp only [List.append_assoc, List.append_cancel_left_eq] at h
  obtain ⟨ha, hrest⟩ := List.append_inj' h (by simpa using hs)
  exact Prod.ext (String.ext ha) (String.ext (List.append_cancel_left hrest))

/-- The push and the slug key determine the application and the abbreviated
revision, when the two abbreviations have one length. -/
theorem key_eq_iff_of_ne_tar (k : Kind) (hk : k ≠ .tar) (hs : g.short.length = g'.short.length) :
    (newSlugBuilderInfo host a n g).key k = (newSlugBuilderInfo host' a' n' g').key k ↔
      (a, g.short) = (a', g'.short) := by
  cases k
  case push => exact revKey_eq_iff "/push" hs
  case tar => exact absurd rfl hk
  case slug => exact revKey_eq_iff "/slug" hs

/-- The tar key determines the slug name. -/
theorem tarKey_eq_iff :
    (newSlugBuilderInfo host a n g).tarKey = (newSlugBuilderInfo host' a' n' g').tarKey ↔
      n = n' := by
  simp [newSlugBuilderInfo, String.ext_iff]

/-- Keys of two kinds are different, whatever the two builds. -/
theorem key_ne_of_ne {k k' : Kind} (hk : k ≠ k') :
    (newSlugBuilderInfo host a n g).key k ≠ (newSlugBuilderInfo host' a' n' g').key k' := by
  intro h
  have h' := tag_suffix_key host' a' n' g' k'
  rw [← h] at h'
  have hsuf := List.suffix_of_suffix_length_le (tag_suffix_key host a n g k) h'
    (by rw [Kind.length_tag, Kind.length_tag])
  exact hk (Kind.tag_injective (hsuf.eq_of_length (by rw [Kind.length_tag, Kind.length_tag])))

/-- Under one endpoint, two URLs are equal exactly when their keys are. -/
theorem url_eq_iff (k k' : Kind) :
    (newSlugBuilderInfo host a n g).url k = (newSlugBuilderInfo host a' n' g').url k' ↔
      (newSlugBuilderInfo host a n g).key k = (newSlugBuilderInfo host a' n' g').key k' := by
  simp only [url_newSlugBuilderInfo, String.ext_iff, String.data_append, List.append_assoc,
    List.append_cancel_left_eq]

end Equal

/-- **Two builds under one endpoint share an object only when they should.**
For any two calls of `NewSlugBuilderInfo` under one
`DEIS_BUILDER_SERVICE_HOST` whose revisions' abbreviations have one length:
the push keys, and the slug keys, are equal exactly when the applications and
the abbreviations are; the tar keys exactly when the slug names are; no key of
one kind equals a key of another; and two URLs are equal exactly when their keys
are. -/
theorem newSlugBuilderInfo_keys (builderServiceHost a1 n1 a2 n2 : String) (g1 g2 : SHA)
    (hs : g1.short.length = g2.short.length) :
    let i1 := newSlugBuilderInfo builderServiceHost a1 n1 g1
    let i2 := newSlugBuilderInfo builderServiceHost a2 n2 g2
    (i1.pushKey = i2.pushKey ↔ (a1, g1.short) = (a2, g2.short)) ∧
    (i1.slugKey = i2.slugKey ↔ (a1, g1.short) = (a2, g2.short)) ∧
    (i1.tarKey = i2.tarKey ↔ n1 = n2) ∧
    (∀ i ∈ [i1, i2], ∀ j ∈ [i1, i2], ∀ k k' : Kind, k ≠ k' → i.key k ≠ j.key k') ∧
    (∀ i ∈ [i1, i2], ∀ j ∈ [i1, i2], ∀ k k' : Kind,
      i.url k = j.url k' ↔ i.key k = j.key k') := by
  intro i1 i2
  have built : ∀ i ∈ [i1, i2], ∃ a n g, i = newSlugBuilderInfo builderServiceHost a n g := by
    simp only [List.mem_cons, List.mem_singleton, List.not_mem_nil, or_false]
    rintro i (rfl | rfl) <;> exact ⟨_, _, _, rfl⟩
  refine ⟨key_eq_iff_of_ne_tar .push nofun hs, key_eq_iff_of_ne_tar .slug nofun hs, tarKey_eq_iff,
    fun i hi j hj k k' hk => ?_, fun i hi j hj k k' => ?_⟩
  all_goals
    obtain ⟨_, _, _, rfl⟩ := built i hi
    obtain ⟨_, _, _, rfl⟩ := built j hj
  · exact key_ne_of_ne hk
  · exact url_eq_iff k k'

theorem newSlugBuilderInfo_keys_deis :
    (⟨"0123abc"⟩ : SHA).short.length = (⟨"4567def"⟩ : SHA).short.length ∧
    let i1 := newSlugBuilderInfo "10.0.0.7" "web" "web-v1" ⟨"0123abc"⟩
    let i2 := newSlugBuilderInfo "10.0.0.7" "api" "api-v1" ⟨"4567def"⟩
    (i1.pushKey = i2.pushKey ↔ ("web", "0123abc") = ("api", "4567def")) ∧
    (i1.slugKey = i2.slugKey ↔ ("web", "0123abc") = ("api", "4567def")) ∧
    (i1.tarKey = i2.tarKey ↔ "web-v1" = "api-v1") ∧
    (∀ i ∈ [i1, i2], ∀ j ∈ [i1, i2], ∀ k k' : Kind, k ≠ k' → i.key k ≠ j.key k') ∧
    (∀ i ∈ [i1, i2], ∀ j ∈ [i1, i2], ∀ k k' : Kind,
      i.url k = j.url k' ↔ i.key k = j.key k') :=
  ⟨rfl, newSlugBuilderInfo_keys "10.0.0.7" "web" "web-v1" "api" "api-v1" ⟨"0123abc"⟩ ⟨"4567def"⟩
    rfl⟩

end Storage

end Gitreceive

end SaBuilder
