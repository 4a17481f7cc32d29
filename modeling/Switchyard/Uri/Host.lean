import Switchyard.Uri.Address

namespace Switchyard.Uri

def localhost : List Char := ['l', 'o', 'c', 'a', 'l', 'h', 'o', 's', 't']

inductive Host where
  | ours
  | another
  deriving DecidableEq

def Host.ofDomain? (domain : Domain) : Option Host :=
  if domain.isNumeric then
    if domain.isAddress then some .another else none
  else if domain.labels == [localhost] then some .ours
  else some .another

def Host.ofText? : List Char → Option Host
  | '[' :: cs =>
    if cs.getLast? == some ']' && isLongAddress cs.dropLast then some .another else none
  | cs => (Domain.ofHost? cs).bind Host.ofDomain?

end Switchyard.Uri
