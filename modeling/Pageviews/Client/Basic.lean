/-! What is known of the visitor's side: system, browser and device, each by its family name. -/
namespace Pageviews

structure Client where
  operatingSystem : String
  browserFamily : String
  device : String
  deriving DecidableEq

namespace Client

def unrecognized : String := "Other"

def other : Client := ⟨unrecognized, unrecognized, unrecognized⟩

end Client
end Pageviews
