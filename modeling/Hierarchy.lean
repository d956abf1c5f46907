import Hierarchy.Main
import Hierarchy.Region.Render
import Hierarchy.Proofs.Locator.Extent
import Hierarchy.Proofs.Locator.Meet
import Hierarchy.Proofs.Locator.Isomorphism
import Hierarchy.Proofs.Locator.Reading
import Hierarchy.Proofs.Locator.Longest
import Hierarchy.Proofs.Locator.Delimited
import Hierarchy.Proofs.Region.Json
import Hierarchy.Proofs.Region.Coverage
import Hierarchy.Proofs.Region.Rebasing
import Hierarchy.Proofs.Region.Sharing
import Hierarchy.Proofs.Region.Restriction
import Hierarchy.Proofs.Region.Access
import Hierarchy.Proofs.Region.Neighbours
import Hierarchy.Proofs.Region.Display
import Hierarchy.Proofs.Listing.Acceptance
import Hierarchy.Proofs.Listing.OneLine
import Hierarchy.Proofs.Listing.Joining
import Hierarchy.Proofs.Listing.Layout
import Hierarchy.Proofs.Dump.Printing
