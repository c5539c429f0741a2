import Namesake.Config.Variables

/-!
# Regions

The parameter service runs in regions, each with parameters of its own. A program looks for its
parameters in the region that its environment variables name.

## Main definitions

* `Variables.region` — the region that the environment variables name
* `Region.isLabel` — can a text be the name of a region?
* `Region.known` — the regions that there are
* `Variables.namesProfile` — do the environment variables ask for a profile?
-/

namespace Namesake

namespace Region

/-- The region in which a program looks if nothing else is said. -/
def usual : String := "us-east-1"

/-- May the character be part of the name of a region? -/
def isLabelChar (c : Char) : Bool :=
  c.isAlphanum || c = '-'

/-- The largest length of the name of a region. -/
def maxLabelLength : Nat := 63

/-- Can the text be the name of a region? It consists of ASCII letters, digits and hyphens, with
none of these at either end, and not of digits alone. -/
def isLabel (name : String) : Bool :=
  let t := name.toList
  !t.isEmpty && t.length ≤ maxLabelLength && t.all isLabelChar && t.head? ≠ some '-' &&
    t.getLast? ≠ some '-' && !t.all Char.isDigit

/-- The regions that there are. -/
def known : List String :=
  ["af-south-1", "ap-east-1", "ap-east-2", "ap-northeast-1", "ap-northeast-2", "ap-northeast-3",
    "ap-south-1", "ap-south-2", "ap-southeast-1", "ap-southeast-2", "ap-southeast-3",
    "ap-southeast-4", "ap-southeast-5", "ap-southeast-6", "ap-southeast-7", "ca-central-1",
    "ca-west-1", "cn-north-1", "cn-northwest-1", "eu-central-1", "eu-central-2", "eu-north-1",
    "eu-south-1", "eu-south-2", "eu-west-1", "eu-west-2", "eu-west-3", "il-central-1",
    "me-central-1", "me-south-1", "mx-central-1", "sa-east-1", "us-east-1", "us-east-2",
    "us-gov-east-1", "us-gov-west-1", "us-west-1", "us-west-2"]

end Region

namespace Variables

/-- The region of the services. An empty variable counts as one that is not set. -/
def region (v : Variables) : String :=
  let value (name : String) : Option String := (v.get? name).filter fun s => !s.isEmpty
  ((value "AWS_REGION").or (value "AWS_DEFAULT_REGION")).getD Region.usual

/-- Do the variables ask for a profile? There is no file that could have one. -/
def namesProfile (v : Variables) : Bool :=
  (v.get? "AWS_PROFILE").isSome || (v.get? "AWS_DEFAULT_PROFILE").isSome

end Variables

end Namesake
