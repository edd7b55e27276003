import Cafce.Correctness.Endpoint
import Cafce.Library.SeparatedText

/-! How a request addresses its bucket where the settings leave it open: by the text of the host,
which is looser than the domain that the host belongs to.
-/

namespace Cafce

open SeparatedText

def lowerCase (host : String) : List Char :=
  host.toLower.toList

/-- The labels of a host, in lower case. -/
def labels (host : String) : List (List Char) :=
  (lowerCase host).splitOn '.'

/-- The host is the domain or one of its subdomains, label by label. -/
def InDomain (domain host : String) : Prop :=
  labels domain <:+ labels host

/-- The host belongs to one of the domains of AWS. -/
def InAwsDomain (host : String) : Prop :=
  InDomain "amazonaws.com" host ∨ InDomain "amazonaws.com.cn" host

/-- The name of AWS occurs in the host, between any texts. -/
def MentionsAws (host : String) : Prop :=
  "amazonaws.com".toList <:+: lowerCase host

/-- The texts leave the name between them a domain of its own: it begins a label, and nothing but
the country code follows.
-/
structure LeavesDomain (front back : List Char) : Prop where
  front : front = [] ∨ ∃ outer, front = outer ++ ['.']
  back : back = [] ∨ back = ".cn".toList

/-- How the style follows the host: a virtual host wherever the name of AWS occurs, so for every
host of its domains, for none without the name, and for the hosts of other domains in which no
occurrence of the name is a domain of its own.
-/
structure StyleFollowsText (url : UrlCrate) (env : Env) (host : String) : Prop where
  style : env.shouldUsePathStyle url = false ↔ MentionsAws host
  inside : InAwsDomain host → env.shouldUsePathStyle url = false
  unmentioned : ¬ MentionsAws host → env.shouldUsePathStyle url = true ∧ ¬ InAwsDomain host
  outside : env.shouldUsePathStyle url = false ∧ ¬ InAwsDomain host
    ↔ MentionsAws host
      ∧ ∀ front back, lowerCase host = front ++ "amazonaws.com".toList ++ back
        → ¬ LeavesDomain front back

theorem lowerCase_of_lower {host : String} (lower : host.toList.map Char.toLower = host.toList)
    : lowerCase host = host.toList := by
  rw [lowerCase, String.toLower, String.toList_map, lower]

theorem lowerCase_aws : lowerCase "amazonaws.com" = "amazonaws.com".toList :=
  lowerCase_of_lower (by decide)

theorem lowerCase_awsChina
    : lowerCase "amazonaws.com.cn" = "amazonaws.com".toList ++ ".cn".toList :=
  lowerCase_of_lower (by decide)

theorem inDomain_iff {domain host : String}
    : InDomain domain host
      ↔ lowerCase host = lowerCase domain
        ∨ ∃ front, lowerCase host = front ++ '.' :: lowerCase domain :=
  splitOn_suffix_iff

/-- The domains of AWS end in its name and, in one of them, a country code. -/
theorem inAwsDomain_iff {host : String}
    : InAwsDomain host
      ↔ ∃ front back,
        lowerCase host = front ++ "amazonaws.com".toList ++ back ∧ LeavesDomain front back := by
  rw [InAwsDomain, inDomain_iff, inDomain_iff, lowerCase_aws, lowerCase_awsChina]
  refine ⟨?_, ?_⟩
  · intro inside
    rcases inside with (same | ⟨front, same⟩) | same | ⟨front, same⟩
    · exact ⟨[], [], by simp [same], .inl rfl, .inl rfl⟩
    · exact ⟨front ++ ['.'], [], by simp [same], .inr ⟨front, rfl⟩, .inl rfl⟩
    · exact ⟨[], ".cn".toList, by simp [same], .inl rfl, .inr rfl⟩
    · exact ⟨front ++ ['.'], ".cn".toList, by simp [same], .inr ⟨front, rfl⟩, .inr rfl⟩
  · intro occurs
    rcases occurs with ⟨_, _, same, rfl | ⟨outer, rfl⟩, rfl | rfl⟩
    · exact .inl (.inl (by simpa using same))
    · exact .inr (.inl (by simpa using same))
    · exact .inl (.inr ⟨outer, by simpa using same⟩)
    · exact .inr (.inr ⟨outer, by simpa using same⟩)

theorem InAwsDomain.mentionsAws {host : String} (inside : InAwsDomain host)
    : MentionsAws host := by
  obtain ⟨front, back, same, _⟩ := inAwsDomain_iff.mp inside
  exact ⟨front, back, same.symm⟩

theorem shouldUsePathStyle_eq_false_iff {url : UrlCrate} {env : Env} {host : String}
    (unforced : env.awsForcePathStyle = none) (parsed : env.getHost url = some host)
    : env.shouldUsePathStyle url = false ↔ MentionsAws host := by
  rw [Env.shouldUsePathStyle, unforced, parsed, Bool.not_eq_false', decide_eq_true_eq]
  exact Iff.rfl

/-- The style that the settings leave open follows the text of the host. -/
theorem shouldUsePathStyle_followsText {url : UrlCrate} {env : Env} {host : String}
    (unforced : env.awsForcePathStyle = none) (parsed : env.getHost url = some host)
    : StyleFollowsText url env host := by
  have style := shouldUsePathStyle_eq_false_iff unforced parsed
  refine ⟨style, fun inside => style.mpr inside.mentionsAws, ?_, ?_⟩
  · intro unmentioned
    refine ⟨?_, fun inside => unmentioned inside.mentionsAws⟩
    rwa [← Bool.not_eq_false, style]
  · rw [style, inAwsDomain_iff]
    simp only [not_exists, not_and]

theorem shouldUsePathStyle_followsText_region
    : StyleFollowsText webUrls (noAddress.withAddress "s3.ap-northeast-1.amazonaws.com")
        "s3.ap-northeast-1.amazonaws.com" :=
  shouldUsePathStyle_followsText rfl rfl

/-- A mirror whose name begins with that of AWS is addressed as AWS is. -/
theorem mirror_addressed_as_aws
    : (noAddress.withAddress "amazonaws.com.mirror.example").awsForcePathStyle = none
      ∧ (noAddress.withAddress "amazonaws.com.mirror.example").getHost webUrls
        = some "amazonaws.com.mirror.example"
      ∧ ¬ ((noAddress.withAddress "amazonaws.com.mirror.example").shouldUsePathStyle webUrls
          = false
        ↔ InAwsDomain "amazonaws.com.mirror.example") := by
  have mirror : lowerCase "amazonaws.com.mirror.example"
      = "amazonaws.com".toList ++ ".mirror.example".toList :=
    lowerCase_of_lower (by decide)
  have mentioned : MentionsAws "amazonaws.com.mirror.example" :=
    ⟨[], ".mirror.example".toList, mirror.symm⟩
  have parsed : (noAddress.withAddress "amazonaws.com.mirror.example").getHost webUrls
      = some "amazonaws.com.mirror.example" := rfl
  refine ⟨rfl, parsed, fun follows => ?_⟩
  have inside := follows.mp ((shouldUsePathStyle_eq_false_iff rfl parsed).mpr mentioned)
  rw [InAwsDomain, InDomain, InDomain, labels, labels, labels, mirror, lowerCase_aws,
    lowerCase_awsChina] at inside
  revert inside
  decide

end Cafce
